import SessionKeeper.Proofs.Task.Stint

/-! # Plans of calls under one lock

A plan is what a task does that makes calls of a service, each of them under the lock of the
service, and may pause in between. A task that goes on with its plan completes some calls before it
has to wait, and if nobody else is in the middle of a call, each of them does what it would do alone
(`Plan.GoesOn`, `Plan.goesOn_outside`).
-/

namespace SessionKeeper

variable {Call : Type}

/-- Calls, each of which is done wholly under one lock, which is the same for all of them. While a
call waits, the stage of the application is one that what was shared when it began allows for. -/
structure Service (Call : Type) where
  lock : Lock
  perform : Call → Routine Unit
  during : Shared → Stage → Prop
  enclosed : ∀ call, ∃ body : Routine Unit, perform call = Routine.withLock lock body ∧
    ∀ before : Shared, body.IsStint lock (during before) before.stage []

namespace Service

variable (service : Service Call) (call : Call)

/-- What is done with the lock in hand. -/
noncomputable def body : Routine Unit := (service.enclosed call).choose

theorem perform_eq : service.perform call = Routine.withLock service.lock (service.body call) :=
  (service.enclosed call).choose_spec.1

theorem stint (before : Shared) :
    (service.body call).IsStint service.lock (service.during before) before.stage [] :=
  (service.enclosed call).choose_spec.2 before

end Service

/-- What a task does that makes calls, and goes on with what they have come to. -/
inductive Plan (Call : Type) where
  | done (outcome : Except Fault Unit)
  | pause (next : Except Fault Unit → Plan Call)
  | call (call : Call) (next : Except Fault Unit → Plan Call)

/-- A call that is through: what was shared when it got the lock and when it gave it back, and what
it has come to. -/
structure Completion (Call : Type) where
  task : Nat
  call : Call
  outcome : Except Fault Unit
  before : Shared
  after : Shared

namespace Completion

/-- The calls of a task with what they have come to, in their order. -/
def own (number : Nat) (completed : List (Completion Call)) : List (Call × Except Fault Unit) :=
  completed.reverse.filterMap fun completion =>
    if completion.task = number then some (completion.call, completion.outcome) else none

theorem own_cons (completion : Completion Call) (completed : List (Completion Call)) :
    own completion.task (completion :: completed) =
      own completion.task completed ++ [(completion.call, completion.outcome)] := by
  simp [own]

theorem own_append_of_ne {number : Nat} {more completed : List (Completion Call)}
    (strange : ∀ completion ∈ more, completion.task ≠ number) :
    own number (more ++ completed) = own number completed := by
  have nothing : own number more = [] := List.filterMap_eq_nil_iff.mpr fun completion member =>
    if_neg (strange completion (List.mem_reverse.mp member))
  rw [own, List.reverse_append, List.filterMap_append, ← own, ← own, nothing, List.append_nil]

theorem exists_of_mem_own {number : Nat} {completed : List (Completion Call)}
    {entry : Call × Except Fault Unit} (member : entry ∈ own number completed) :
    ∃ completion ∈ completed, (completion.call, completion.outcome) = entry := by
  obtain ⟨completion, found, same⟩ := List.mem_filterMap.mp member
  split at same
  · exact ⟨completion, List.mem_reverse.mp found, Option.some.inj same⟩
  · cases same

end Completion

/-- Completed calls, the latest first, that were made by one task alone. -/
inductive Service.Performed (service : Service Call) (endpoint : Endpoint) (origin : Shared) :
    List (Completion Call) → Shared → Prop
  | none : Performed service endpoint origin [] origin
  | next (completed : List (Completion Call)) (completion : Completion Call)
      (earlier : Performed service endpoint origin completed completion.before)
      (ran : (service.perform completion.call).run endpoint completion.before =
        (completion.after, completion.outcome)) :
    Performed service endpoint origin (completion :: completed) completion.after

namespace Plan

/-- What is left of a plan after some calls, each with what it has come to. -/
inductive Leads : Plan Call → List (Call × Except Fault Unit) → Plan Call → Prop
  | refl (plan : Plan Call) : Leads plan [] plan
  | pause {next : Except Fault Unit → Plan Call} {seen : List (Call × Except Fault Unit)}
      {rest : Plan Call} (leads : Leads (next (.ok ())) seen rest) : Leads (.pause next) seen rest
  | call {call : Call} {next : Except Fault Unit → Plan Call} (outcome : Except Fault Unit)
      {seen : List (Call × Except Fault Unit)} {rest : Plan Call}
      (leads : Leads (next outcome) seen rest) :
    Leads (.call call next) ((call, outcome) :: seen) rest

namespace Leads

variable {plan middle rest : Plan Call} {seen later : List (Call × Except Fault Unit)}

theorem trans (first : Leads plan seen middle) (second : Leads middle later rest) :
    Leads plan (seen ++ later) rest := by
  induction first with
  | refl => exact second
  | pause _ ih => exact .pause (ih second)
  | call outcome _ ih => exact .call outcome (ih second)

/-- A plan goes on as it does whatever was before. -/
theorem of_append {call : Call} {next : Except Fault Unit → Plan Call} {outcome : Except Fault Unit}
    (first : Leads plan seen (.call call next))
    (whole : Leads plan (seen ++ (call, outcome) :: later) rest) :
    Leads (next outcome) later rest := by
  generalize asked : Plan.call call next = middle at first
  induction first with
  | refl =>
    subst asked
    cases whole with
    | call _ leads => exact leads
  | @pause _ before _ _ ih =>
    generalize history : before ++ (call, outcome) :: later = all at whole
    cases whole with
    | refl => simp at history
    | pause leads => exact ih (history ▸ leads) asked
  | call _ _ ih =>
    cases whole with
    | call _ leads => exact ih leads asked

end Leads

/-- Go on after a plan, with its outcome. -/
def andThen : Plan Call → (Except Fault Unit → Plan Call) → Plan Call
  | done outcome, last => last outcome
  | pause next, last => .pause fun turn => (next turn).andThen last
  | call made next, last => .call made fun outcome => (next outcome).andThen last

variable (service : Service Call)

def routine : Plan Call → Routine Unit
  | done outcome => .done outcome
  | pause next => .pause fun turn => (next turn).routine
  | call made next => (service.perform made).andThen fun outcome => (next outcome).routine

theorem routine_andThen (plan : Plan Call) (last : Except Fault Unit → Plan Call) :
    (plan.andThen last).routine service =
      (plan.routine service).andThen fun outcome => (last outcome).routine service := by
  induction plan with
  | done outcome => rfl
  | pause next ih => exact congrArg Routine.pause (funext ih)
  | call call next ih =>
    simp only [andThen, routine]
    rw [Routine.andThen_andThen]
    exact congrArg (Routine.andThen (service.perform call)) (funext ih)

/-- Give the lock back after a call, and go on. -/
def leave (next : Except Fault Unit → Plan Call) (outcome : Except Fault Unit) : Routine Unit :=
  .update (·.unlock service.lock) ((next outcome).routine service)

/-- Make a call with the lock in hand, and go on. -/
noncomputable def enter (call : Call) (next : Except Fault Unit → Plan Call) :
    Except Fault Unit → Routine Unit
  | .ok () => (service.body call).andThen (leave service next)
  | .error fault => (next (.error fault)).routine service

theorem routine_call (call : Call) (next : Except Fault Unit → Plan Call) :
    (Plan.call call next).routine service = .acquire service.lock (enter service call next) := by
  rw [routine, service.perform_eq]
  refine congrArg (Routine.acquire service.lock) (funext fun granted => ?_)
  cases granted with
  | error fault => rfl
  | ok value =>
    change ((service.body call).ensuring (Routine.modify (·.unlock service.lock))).andThen _ = _
    rw [Routine.ensuring, Routine.andThen_andThen]
    rfl

/-- How a task waits that is not in the middle of a call. -/
inductive Awaits : Plan Call → Waiting Unit → Prop
  | done (outcome : Except Fault Unit) : Awaits (.done outcome) (.finished outcome)
  | pause (next : Except Fault Unit → Plan Call) :
    Awaits (.pause next) (.forTurn fun turn => (next turn).routine service)
  | call (call : Call) (next : Except Fault Unit → Plan Call) :
    Awaits (.call call next) (.forLock service.lock (enter service call next))

variable (endpoint : Endpoint) (origin : Shared) (plan : Plan Call) (number : Nat)
  (completed : List (Completion Call)) (shared : Shared) (waiting : Waiting Unit)

/-- A task waits in the middle of a call. Carried on alone, it would end the call as if it had been
alone from the beginning; and the stage of the application is one that is allowed for. -/
inductive Engaged : Prop
  | intro (before : Shared) (call : Call) (next : Except Fault Unit → Plan Call)
      (inner : Waiting Unit) (held : List Lock)
      (leads : plan.Leads (Completion.own number completed) (.call call next))
      (performed : service.Performed endpoint origin completed before)
      (continues : inner.Continues (leave service next) waiting)
      (stands : inner.IsStint service.lock (service.during before) shared.stage held)
      (locked : shared.locked = held ++ [service.lock])
      (stage : service.during before shared.stage)
      (runs : inner.rest.run endpoint shared =
        (service.body call).run endpoint (before.lock service.lock)) : Engaged

/-- How a task waits when nobody else is in the middle of a call. -/
inductive Halts : Prop
  | outside (rest : Plan Call) (leads : plan.Leads (Completion.own number completed) rest)
      (awaits : rest.Awaits service waiting)
      (performed : service.Performed endpoint origin completed shared)
      (unlocked : shared.locked = []) : Halts
  | inside (engaged : Engaged service endpoint origin plan number completed shared waiting) : Halts

/-- A task that goes on from a world completes some calls before it has to wait. -/
def GoesOn (contended : List Lock) (world : World) (routine : Routine Unit) : Prop :=
  ∃ more : List (Completion Call), (∀ completion ∈ more, completion.task = number) ∧
    (routine.enact endpoint contended number world).past.releases service.lock =
      (more.map fun completion => (completion.task, completion.after)) ++
        world.past.releases service.lock ∧
    Halts service endpoint origin plan number (more ++ completed)
      (routine.enact endpoint contended number world).shared
      (routine.advance endpoint contended world.shared).2

variable {service endpoint origin plan number completed shared waiting}

theorem Awaits.lock? {rest : Plan Call} (awaits : rest.Awaits service waiting) {lock : Lock}
    (waits : waiting.lock? = some lock) : lock = service.lock := by
  cases awaits <;> cases waits
  rfl

namespace Engaged

variable (engaged : Engaged service endpoint origin plan number completed shared waiting)

include engaged

theorem lock? : waiting.lock? = none := by
  obtain ⟨_, _, _, _, _, _, _, continues⟩ := engaged
  cases continues <;> rfl

theorem mem_locked : service.lock ∈ shared.locked := by
  obtain ⟨_, _, _, _, _, _, _, _, _, locked⟩ := engaged
  simp [locked]

theorem isReady (other : Shared) : waiting.isReady other = true := by
  obtain ⟨_, _, _, _, _, _, _, continues⟩ := engaged
  cases continues <;> rfl

theorem stage : ∃ before, service.Performed endpoint origin completed before ∧
    service.during before shared.stage := by
  obtain ⟨before, _, _, _, _, _, performed, _, _, _, stage⟩ := engaged
  exact ⟨before, performed, stage⟩

end Engaged

variable {contended : List Lock} {world : World}

/-- With the lock in hand, a task comes to the end of its call and goes on, or it waits. -/
private theorem goesOn_inside (uncontended : ∀ lock ∈ contended, lock = service.lock)
    {before : Shared} {call : Call} {next : Except Fault Unit → Plan Call} {inner : Routine Unit}
    {held : List Lock} (leads : plan.Leads (Completion.own number completed) (.call call next))
    (performed : service.Performed endpoint origin completed before)
    (stands : inner.IsStint service.lock (service.during before) world.shared.stage held)
    (locked : world.shared.locked = held ++ [service.lock])
    (runs : inner.run endpoint world.shared =
      (service.body call).run endpoint (before.lock service.lock))
    (onwards : ∀ (outcome : Except Fault Unit) (completed : List (Completion Call)) (world : World),
      plan.Leads (Completion.own number completed) (next outcome) →
      service.Performed endpoint origin completed world.shared → world.shared.locked = [] →
      GoesOn service endpoint origin plan number completed contended world
        ((next outcome).routine service)) :
    GoesOn service endpoint origin plan number completed contended world
      (inner.andThen (leave service next)) := by
  cases stands.carried (leave service next) endpoint number uncontended rfl locked with
  | through outcome between ran left released enact advance =>
    let completion : Completion Call :=
      ⟨number, call, outcome, before, between.shared.unlock service.lock⟩
    have completes : (service.perform call).run endpoint before =
        (completion.after, completion.outcome) := by
      rw [service.perform_eq, Routine.run_withLock, ← runs, ran]
    have led : plan.Leads (Completion.own number (completion :: completed)) (next outcome) :=
      (Completion.own_cons completion completed).symm ▸
        leads.trans (.call outcome (.refl (next outcome)))
    have given : (between.updates number (·.unlock service.lock)).past.releases service.lock =
        (number, completion.after) :: world.past.releases service.lock := by
      rw [← released]
      exact History.releases_cons_of_released (Deed.ofUpdate_unlock _ _)
    obtain ⟨more, own, releases, halts⟩ := onwards outcome (completion :: completed)
      (between.updates number (·.unlock service.lock)) led
      (.next completed completion performed completes)
      (by simp [World.updates, World.did, World.add, Shared.unlock, left])
    refine ⟨more ++ [completion], ?_, ?_, ?_⟩
    · intro other member
      rcases List.mem_append.mp member with later | first
      · exact own other later
      · exact List.mem_singleton.mp first ▸ rfl
    · rw [enact]
      exact releases.trans (by simp [given, completion])
    · rw [enact, advance, List.append_assoc]
      exact halts
  | under held waits continues stands allowed locked released ran =>
    refine ⟨[], by simp, released, .inside ?_⟩
    exact ⟨before, call, next, waits, held, leads, performed, continues, stands, locked, allowed,
      ran.trans runs⟩

/-- A task goes on while nobody is in the middle of a call. -/
theorem goesOn_outside (uncontended : ∀ lock ∈ contended, lock = service.lock) (rest : Plan Call)
    (leads : plan.Leads (Completion.own number completed) rest)
    (performed : service.Performed endpoint origin completed world.shared)
    (unlocked : world.shared.locked = []) :
    GoesOn service endpoint origin plan number completed contended world
      (rest.routine service) := by
  induction rest generalizing completed world with
  | done outcome =>
    exact ⟨[], by simp, rfl, .outside _ leads (.done outcome) performed unlocked⟩
  | pause next _ => exact ⟨[], by simp, rfl, .outside _ leads (.pause next) performed unlocked⟩
  | call call next ih =>
    rw [routine_call]
    by_cases waits : (service.lock ∈ world.shared.locked || service.lock ∈ contended) = true
    · unfold GoesOn
      simp only [Routine.enact, Routine.advance]
      rw [if_pos waits, if_pos waits]
      exact ⟨[], by simp, rfl, .outside _ leads (.call call next) performed unlocked⟩
    · have taken : (world.takes number service.lock).past.releases service.lock =
          world.past.releases service.lock := History.releases_cons_of_ne (by simp)
      have inside : GoesOn service endpoint origin plan number completed contended
          (world.takes number service.lock) (enter service call next (.ok ())) :=
        goesOn_inside uncontended leads performed (service.stint call world.shared)
          (congrArg (service.lock :: ·) unlocked) rfl fun outcome _ _ => ih outcome
      obtain ⟨more, own, releases, halts⟩ := inside
      refine ⟨more, own, ?_, ?_⟩
      · simp only [Routine.enact]
        rw [if_neg waits]
        exact releases.trans (congrArg (_ ++ ·) taken)
      · simp only [Routine.enact, Routine.advance]
        rw [if_neg waits, if_neg waits]
        exact halts

/-- A task goes on with the lock that it has just got. -/
theorem goesOn_enter (uncontended : ∀ lock ∈ contended, lock = service.lock) {call : Call}
    {next : Except Fault Unit → Plan Call}
    (leads : plan.Leads (Completion.own number completed) (.call call next))
    (performed : service.Performed endpoint origin completed world.shared)
    (unlocked : world.shared.locked = []) :
    GoesOn service endpoint origin plan number completed contended
      (world.takes number service.lock) (enter service call next (.ok ())) :=
  goesOn_inside uncontended leads performed (service.stint call world.shared)
    (congrArg (service.lock :: ·) unlocked) rfl fun outcome _ _ leads performed unlocked =>
      goesOn_outside uncontended (next outcome) leads performed unlocked

/-- A task goes on in the middle of a call. -/
theorem Engaged.goesOn (uncontended : ∀ lock ∈ contended, lock = service.lock)
    (engaged : Engaged service endpoint origin plan number completed world.shared waiting) :
    (waiting.wake number world).past.releases service.lock = world.past.releases service.lock ∧
      GoesOn service endpoint origin plan number completed contended (waiting.wake number world)
        waiting.remaining := by
  obtain ⟨before, call, next, inner, held, leads, performed, continues, stands, locked, _, runs⟩ :=
    engaged
  have onwards (outcome : Except Fault Unit) (completed : List (Completion Call)) (world : World)
      (leads : plan.Leads (Completion.own number completed) (next outcome))
      (performed : service.Performed endpoint origin completed world.shared)
      (unlocked : world.shared.locked = []) :=
    goesOn_outside uncontended (next outcome) leads performed unlocked
  cases continues with
  | forAnswer request answer rest =>
    refine ⟨History.releases_cons_of_ne (by simp), ?_⟩
    exact goesOn_inside uncontended leads performed (stands answer) locked runs onwards
  | forTurn rest =>
    refine ⟨History.releases_cons_of_ne (by simp), ?_⟩
    exact goesOn_inside uncontended leads performed (stands (.ok ())) locked runs onwards

/-- A task that goes on while another one is in the middle of a call leaves everything as it is. -/
theorem waits_of_locked (locked : service.lock ∈ world.shared.locked) (endpoint : Endpoint)
    (contended : List Lock) (number : Nat) (rest : Plan Call) :
    (rest.routine service).enact endpoint contended number world = world ∧
      rest.Awaits service ((rest.routine service).advance endpoint contended world.shared).2 := by
  cases rest with
  | done outcome => exact ⟨rfl, .done outcome⟩
  | pause next => exact ⟨rfl, .pause next⟩
  | call call next =>
    rw [routine_call]
    simp only [Routine.enact, Routine.advance]
    rw [if_pos (by simp [locked]), if_pos (by simp [locked])]
    exact ⟨rfl, .call call next⟩

end Plan

end SessionKeeper
