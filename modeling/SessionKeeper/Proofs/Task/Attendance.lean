import SessionKeeper.Proofs.Task.Completion
import SessionKeeper.Proofs.Task.Plan

/-! # Tasks that attend to their plans

However the turns of tasks with plans are given, everything that is shared while nobody has the lock
of the service is as if the calls had been made by one task, in the order in which the lock was
given back (`Course.Attends`, `Course.attends_follow`). In the end all plans are through
(`Course.Attends.inevitably`).
-/

namespace SessionKeeper

variable {Call : Type}

namespace Course

variable (service : Service Call) (endpoint : Endpoint) (origin : Shared)
  (plans : List (Plan Call)) (course next : Course Unit) (completed : List (Completion Call))

/-- Who is in the middle of a call: nobody, or the task with a number. -/
inductive Tenancy : Option Nat → Prop
  | vacant (performed : service.Performed endpoint origin completed course.crew.shared)
      (unlocked : course.crew.shared.locked = []) : Tenancy none
  | occupied (number : Nat) (plan : Plan Call) (planned : plans[number]? = some plan)
      (waiting : Waiting Unit) (stands : course.crew.tasks[number]? = some waiting)
      (engaged : Plan.Engaged service endpoint origin plan number completed course.crew.shared
        waiting) : Tenancy (some number)

/-- Tasks go after their plans: some calls are through, the latest first, one task may be in the
middle of a call, and the others wait outside. -/
structure Attends (tenant : Option Nat) : Prop where
  known : ∀ completion ∈ completed, completion.task < course.crew.tasks.length
  released : course.past.releases service.lock =
    completed.map fun completion => (completion.task, completion.after)
  outside : ∀ number waiting, course.crew.tasks[number]? = some waiting → tenant ≠ some number →
    ∃ plan rest, plans[number]? = some plan ∧ plan.Leads (Completion.own number completed) rest ∧
      rest.Awaits service waiting
  tenancy : course.Tenancy service endpoint origin plans completed tenant

variable {service endpoint origin plans course next completed} {tenant : Option Nat} {number : Nat}

namespace Attends

variable (attends : course.Attends service endpoint origin plans completed tenant)

include attends

/-- Nobody waits for another lock than that of the service. -/
theorem uncontended (number : Nat) :
    ∀ lock ∈ course.crew.contended number, lock = service.lock := by
  intro lock member
  obtain ⟨other, _, waits⟩ := List.mem_filterMap.mp member
  obtain ⟨waiting, at?, waits⟩ := Option.bind_eq_some_iff.mp waits
  by_cases itself : tenant = some other
  · subst itself
    cases attends.tenancy with
    | occupied _ _ _ _ stands engaged =>
      obtain rfl := Option.some.inj (stands.symm.trans at?)
      rw [engaged.lock?] at waits
      cases waits
  · obtain ⟨_, rest, _, _, awaits⟩ := attends.outside other waiting at? itself
    exact awaits.lock? waits

/-- A task goes on when nobody else is in the middle of a call. -/
private theorem proceed (alone : ∀ other, other ≠ number → tenant ≠ some other) {start : World}
    {routine : Routine Unit} (carries : Carries endpoint course next number routine start)
    {plan : Plan Call} (planned : plans[number]? = some plan)
    (same : start.past.releases service.lock = course.past.releases service.lock)
    (goesOn : Plan.GoesOn service endpoint origin plan number completed
      (course.crew.contended number) start routine) :
    ∃ completed tenant, next.Attends service endpoint origin plans completed tenant := by
  obtain ⟨more, own, releases, halts⟩ := goesOn
  have released : next.past.releases service.lock =
      (more ++ completed).map fun completion => (completion.task, completion.after) := by
    rw [carries.past, releases, same, attends.released, List.map_append]
  have known : ∀ completion ∈ more ++ completed, completion.task < next.crew.tasks.length := by
    intro completion member
    rcases List.mem_append.mp member with new | old
    · rw [own completion new]
      exact (List.getElem?_eq_some_iff.mp carries.own).1
    · exact carries.known (attends.known completion old)
  have others : ∀ other waiting, next.crew.tasks[other]? = some waiting → other ≠ number →
      ∃ plan rest, plans[other]? = some plan ∧
        plan.Leads (Completion.own other (more ++ completed)) rest ∧
          rest.Awaits service waiting := by
    intro other waiting at? different
    rw [carries.others other different] at at?
    rw [Completion.own_append_of_ne fun completion member =>
      (own completion member).trans_ne different.symm]
    exact attends.outside other waiting at? (alone other different)
  have stands := carries.own
  have shared := carries.shared
  simp only [standing] at stands
  rw [← Routine.shared_enact endpoint _ number] at shared
  rw [← shared] at halts
  cases halts with
  | outside rest leads awaits performed unlocked =>
    refine ⟨_, none, known, released, fun other waiting at? _ => ?_, .vacant performed unlocked⟩
    by_cases itself : other = number
    · subst itself
      obtain rfl := Option.some.inj (stands.symm.trans at?)
      exact ⟨plan, rest, planned, leads, awaits⟩
    · exact others other waiting at? itself
  | inside engaged =>
    refine ⟨_, some number, known, released, fun other waiting at? outside => ?_,
      .occupied number plan planned _ stands engaged⟩
    exact others other waiting at? fun itself => outside (itself ▸ rfl)

/-- A task that has to wait while another one is in the middle of a call leaves everything as it
is. -/
private theorem stay (elsewhere : tenant ≠ some number) {start : World} {plan rest : Plan Call}
    (carries : Carries endpoint course next number (rest.routine service) start)
    (planned : plans[number]? = some plan)
    (leads : plan.Leads (Completion.own number completed) rest)
    (same : start.shared = course.crew.shared)
    (quiet : start.past.releases service.lock = course.past.releases service.lock)
    (locked : service.lock ∈ start.shared.locked) :
    next.Attends service endpoint origin plans completed tenant := by
  obtain ⟨still, awaits⟩ :=
    Plan.waits_of_locked locked endpoint (course.crew.contended number) number rest
  have world := carries.world.trans still
  have shared : next.crew.shared = course.crew.shared := (congrArg World.shared world).trans same
  have past : next.past = start.past := congrArg World.past world
  refine ⟨fun completion member => carries.known (attends.known completion member), ?_, ?_, ?_⟩
  · rw [past, quiet, attends.released]
  · intro other waiting at? outside
    by_cases itself : other = number
    · subst itself
      obtain rfl := Option.some.inj (carries.own.symm.trans at?)
      exact ⟨plan, rest, planned, leads, awaits⟩
    · rw [carries.others other itself] at at?
      exact attends.outside other waiting at? outside
  · cases attends.tenancy with
    | vacant performed unlocked => exact absurd locked (by simp [same, unlocked])
    | occupied holder plan planned waiting stands engaged =>
      have different : holder ≠ number := fun itself => elsewhere (congrArg some itself)
      refine .occupied holder plan planned waiting ?_ (shared ▸ engaged)
      exact (carries.others holder different).trans stands

/-- A task that is not in the middle of a call goes on after its plan. -/
private theorem onwards (elsewhere : tenant ≠ some number) {start : World} {plan rest : Plan Call}
    (carries : Carries endpoint course next number (rest.routine service) start)
    (planned : plans[number]? = some plan)
    (leads : plan.Leads (Completion.own number completed) rest)
    (same : start.shared = course.crew.shared)
    (quiet : start.past.releases service.lock = course.past.releases service.lock) :
    ∃ completed tenant, next.Attends service endpoint origin plans completed tenant := by
  cases tenancy : attends.tenancy with
  | vacant performed unlocked =>
    refine attends.proceed (by simp) carries planned quiet ?_
    exact Plan.goesOn_outside (attends.uncontended number) rest leads (same ▸ performed)
      (same ▸ unlocked)
  | occupied holder _ _ _ _ engaged =>
    exact ⟨completed, _, attends.stay elsewhere carries planned leads same quiet
      (same ▸ engaged.mem_locked)⟩

theorem join {plan : Plan Call} (planned : plans[course.crew.tasks.length]? = some plan) :
    ∃ completed tenant, (course.join endpoint (plan.routine service)).Attends service endpoint
      origin plans completed tenant := by
  have carries := course.carries_join endpoint (plan.routine service)
  have elsewhere : tenant ≠ some course.crew.tasks.length := by
    rintro rfl
    cases attends.tenancy with
    | occupied _ _ _ _ stands => simp at stands
  have unseen : Completion.own course.crew.tasks.length completed = [] := by
    refine List.filterMap_eq_nil_iff.mpr fun completion member => if_neg fun itself => ?_
    exact Nat.lt_irrefl _ (itself ▸ attends.known completion (List.mem_reverse.mp member))
  exact attends.onwards elsewhere carries planned (unseen ▸ .refl plan) rfl rfl

theorem resume (number : Nat) :
    ∃ completed tenant, (course.resume endpoint number).Attends service endpoint origin plans
      completed tenant := by
  by_cases able : course.CanResume number
  · obtain ⟨waiting, at?, ready⟩ := able
    have carries := course.carries_resume endpoint at? ready
    by_cases itself : tenant = some number
    · subst itself
      cases attends.tenancy with
      | occupied _ plan planned waiting stands engaged =>
        obtain rfl := Option.some.inj (stands.symm.trans at?)
        have inside : Plan.Engaged service endpoint origin plan number completed
            course.world.shared waiting := engaged
        obtain ⟨quiet, goesOn⟩ := inside.goesOn (attends.uncontended number)
        exact attends.proceed (by simpa using fun _ => Ne.symm) carries planned quiet goesOn
    · obtain ⟨plan, rest, planned, leads, awaits⟩ := attends.outside number waiting at? itself
      cases awaits with
      | done outcome => cases ready
      | pause next =>
        have led := leads.trans (.pause (.refl (next (.ok ()))))
        rw [List.append_nil] at led
        exact attends.onwards itself carries planned led rfl
          (History.releases_cons_of_ne (by simp))
      | call call next =>
        have free : service.lock ∉ course.crew.shared.locked := by
          simpa [Waiting.isReady] using ready
        cases attends.tenancy with
        | occupied _ _ _ _ _ engaged => exact absurd engaged.mem_locked free
        | vacant performed unlocked =>
          exact attends.proceed (by simp) carries planned (History.releases_cons_of_ne (by simp))
            (Plan.goesOn_enter (attends.uncontended number) leads performed unlocked)
  · rw [resume_of_not_canResume endpoint course able]
    exact ⟨completed, tenant, attends⟩

theorem follow {events : List (Event (Plan Call))}
    (begun : Event.begun events <+: plans.drop course.crew.tasks.length)
    (unbroken : Event.Breaks (fun _ => False) events) :
    ∃ completed tenant, (course.follow endpoint (Plan.routine service) events).Attends service
      endpoint origin plans completed tenant := by
  induction events generalizing course completed tenant with
  | nil => exact ⟨completed, tenant, attends⟩
  | cons event rest ih =>
    have unbrokenRest : Event.Breaks (fun _ => False) rest := fun number fault member =>
      unbroken number fault (List.mem_cons_of_mem _ member)
    cases event with
    | begins plan =>
      obtain ⟨beyond, split⟩ := begun
      have planned : plans[course.crew.tasks.length]? = some plan := by
        rw [← List.head?_drop, ← split]
        rfl
      obtain ⟨_, _, joined⟩ := attends.join planned
      refine ih joined ?_ unbrokenRest
      simp only [step]
      rw [length_join, ← List.drop_drop, ← split]
      exact ⟨beyond, rfl⟩
    | turn number =>
      obtain ⟨_, _, resumed⟩ := attends.resume number
      refine ih resumed ?_ unbrokenRest
      simp only [step]
      rw [length_resume]
      exact begun
    | interruption number fault => exact (unbroken number fault List.mem_cons_self).elim

/-- When nobody can go on, all plans are through. -/
theorem isOver (stuck : ∀ number, ¬ course.CanResume number) : course.IsOver := by
  cases attends.tenancy with
  | occupied number _ _ waiting stands engaged =>
    exact absurd ⟨waiting, stands, engaged.isReady _⟩ (stuck number)
  | vacant _ unlocked =>
    intro waiting member
    obtain ⟨number, bound, rfl⟩ := List.mem_iff_getElem.mp member
    have at? := List.getElem?_eq_getElem bound
    obtain ⟨_, rest, _, _, awaits⟩ := attends.outside number _ at? (by simp)
    have idle : course.crew.tasks[number].isReady course.crew.shared ≠ true :=
      fun ready => stuck number ⟨_, at?, ready⟩
    generalize course.crew.tasks[number] = waiting at awaits idle
    cases awaits with
    | done outcome => exact ⟨outcome, rfl⟩
    | pause next => exact absurd rfl idle
    | call call next => exact absurd (by simp [Waiting.isReady, unlocked]) idle

/-- Every task is where its plan leads with what its calls have come to. -/
theorem planned {waiting : Waiting Unit} (at? : course.crew.tasks[number]? = some waiting) :
    ∃ plan rest, plans[number]? = some plan ∧ plan.Leads (Completion.own number completed) rest ∧
      ∀ outcome, waiting = .finished outcome → rest = .done outcome := by
  by_cases itself : tenant = some number
  · subst itself
    cases attends.tenancy with
    | occupied _ plan planned _ stands engaged =>
      obtain rfl := Option.some.inj (stands.symm.trans at?)
      have ready := engaged.isReady course.crew.shared
      obtain ⟨_, call, next, _, _, leads⟩ := engaged
      refine ⟨plan, _, planned, leads, ?_⟩
      rintro outcome rfl
      cases ready
  · obtain ⟨plan, rest, planned, leads, awaits⟩ := attends.outside number waiting at? itself
    refine ⟨plan, rest, planned, leads, ?_⟩
    rintro outcome rfl
    cases awaits
    rfl

/-- What is shared while nobody has a lock is what the last call that is through has left; at any
other time, the stage of the application is one that this allows for. -/
theorem last : ∃ last, service.Performed endpoint origin completed last ∧
    (course.crew.shared.stage = last.stage ∨ service.during last course.crew.shared.stage) ∧
      (course.crew.shared.locked = [] → course.crew.shared = last) := by
  cases attends.tenancy with
  | vacant performed => exact ⟨_, performed, .inl rfl, fun _ => rfl⟩
  | occupied _ _ _ _ _ engaged =>
    obtain ⟨last, performed, stage⟩ := engaged.stage
    refine ⟨last, performed, .inr stage, fun unlocked => ?_⟩
    exact absurd engaged.mem_locked (unlocked ▸ List.not_mem_nil)

/-- No lock is taken when everybody has come to the end. -/
theorem unlocked (complete : course.IsOver) : course.crew.shared.locked = [] := by
  cases attends.tenancy with
  | vacant _ unlocked => exact unlocked
  | occupied _ _ _ waiting stands engaged =>
    obtain ⟨outcome, rfl⟩ := complete waiting (List.mem_of_getElem? stands)
    cases engaged.isReady course.crew.shared

end Attends

/-- Tasks with plans attend to them from the beginning on. -/
theorem attends_follow (service : Service Call) (endpoint : Endpoint) {origin : Shared}
    (unlocked : origin.locked = []) {events : List (Event (Plan Call))}
    (unbroken : Event.Breaks (fun _ => False) events) :
    ∃ completed tenant, ((initial origin).follow endpoint (Plan.routine service) events).Attends
      service endpoint origin (Event.begun events) completed tenant := by
  have first : (initial origin : Course Unit).Attends service endpoint origin (Event.begun events)
      [] none :=
    ⟨by simp, rfl, by simp [initial], .vacant .none unlocked⟩
  exact first.follow List.prefix_rfl unbroken

/-- However the turns are given, they come to an end, and then all plans are through. -/
theorem Attends.inevitably (attends : course.Attends service endpoint origin plans completed tenant)
    {property : Course Unit → Prop}
    (ended : ∀ (final : Course Unit) (completed : List (Completion Call)) (tenant : Option Nat),
      final.Attends service endpoint origin plans completed tenant → final.IsOver →
        property final) :
    Inevitably endpoint property course := by
  refine inevitably_of_kept
    (fun course =>
      ∃ completed tenant, course.Attends service endpoint origin plans completed tenant)
    ?_ ?_ ⟨completed, tenant, attends⟩
  · rintro course number ⟨completed, tenant, attends⟩ _
    exact attends.resume number
  · rintro final ⟨completed, tenant, attends⟩ stuck
    exact ended final completed tenant attends (attends.isOver stuck)

end Course

end SessionKeeper
