import SessionKeeper.Proofs.Task.Assertion
import SessionKeeper.Proofs.Task.Course

/-! # Courses of sound tasks

If the routine of every task ensures something by itself, whatever the others do, then so it does in
every course (`Course.sound_follow`): at any time every lock that nobody holds is free, each task
stands where its routine still ensures what it promised, and a finished task has ended as it
promised.
-/

namespace SessionKeeper

variable {α Task : Type} {regime : Regime} {number : Nat}
  {post : Except Fault α → World → Prop} {world later : World}

/-- What a whole routine ensures: it ends as `post` says, without a lock. -/
def Routine.Fulfils (regime : Regime) (number : Nat) (post : Except Fault α → World → Prop)
    (routine : Routine α) (world : World) : Prop :=
  routine.Ensures regime number (fun outcome after => post outcome after ∧ after.Idle number) world

/-- What is left of the routine of a task ensures what the whole did. -/
def Waiting.Stands (regime : Regime) (number : Nat) (post : Except Fault α → World → Prop) :
    Waiting α → World → Prop
  | .finished outcome, world =>
    ∃ ending, post outcome ending ∧ ending.Idle number ∧ ending.Meanwhile number world
  | .forAnswer request answer next, world =>
    world.Entitles number (.sent request) ∧
      ∀ later, world.Meanwhile number later →
        (next answer).Fulfils regime number post (later.hears number request answer) ∧
          ∀ fault, regime.breaks fault →
            (next (.error fault)).Fulfils regime number post (later.stops number fault)
  | .forLock lock next, world =>
    (∀ held, world.holder held = some number → held.Precedes lock) ∧
      ∀ later, world.Meanwhile number later →
        (later.holder lock = none → regime.free lock later →
          (next (.ok ())).Fulfils regime number post (later.takes number lock)) ∧
          ∀ fault, regime.breaks fault →
            (next (.error fault)).Fulfils regime number post (later.stops number fault)
  | .forTurn next, world =>
    ∀ later, world.Meanwhile number later →
      (next (.ok ())).Fulfils regime number post (later.wakes number) ∧
        ∀ fault, regime.breaks fault →
          (next (.error fault)).Fulfils regime number post (later.stops number fault)

/-- The locks that nobody holds are free. -/
def World.Vacant (regime : Regime) (world : World) : Prop :=
  ∀ lock, world.holder lock = none → regime.free lock world

/-- What one task does, whereby the locks that nobody holds stay free, leads from one world to the
other. -/
def World.Alone (regime : Regime) (number : Nat) : World → World → Prop :=
  Relation.ReflTransGen fun world next =>
    World.Step (fun moment => moment.task = number) world next ∧ next.Vacant regime

namespace World

theorem Alone.meanwhile {other : Nat} (alone : Alone regime number world later)
    (different : number ≠ other) : Meanwhile other world later :=
  Relation.ReflTransGen.mono
    (fun _ _ step => step.1.mono fun _ own same => different (own.symm.trans same)) _ _ alone

theorem Alone.leads (alone : Alone regime number world later) : Leads world later :=
  Relation.ReflTransGen.mono (fun _ _ step => step.1.mono fun _ _ => trivial) _ _ alone

theorem Alone.vacant (alone : Alone regime number world later) (vacant : world.Vacant regime) :
    later.Vacant regime := by
  cases alone with
  | refl => exact vacant
  | tail _ step => exact step.2

/-- After each of the moments the locks that nobody holds are free. -/
theorem Alone.upheld (alone : Alone regime number world later) {moment : Moment}
    {earlier : History} (suffix : moment :: earlier <:+ later.past) :
    moment :: earlier <:+ world.past ∨ World.Vacant regime ⟨moment.after, moment :: earlier⟩ := by
  induction alone with
  | refl => exact .inl suffix
  | tail _ step ih =>
    obtain ⟨⟨next, _, _, rfl⟩, vacant⟩ := step
    rcases List.suffix_cons_iff.mp suffix with same | shorter
    · obtain ⟨rfl, rfl⟩ := List.cons.inj same
      exact .inr vacant
    · exact ih shorter

theorem Alone.tasks (alone : Alone regime number world later) :
    ∀ moment ∈ later.past, moment ∈ world.past ∨ moment.task = number := by
  induction alone with
  | refl => exact fun moment member => .inl member
  | tail _ step ih =>
    obtain ⟨⟨next, own, _, rfl⟩, _⟩ := step
    intro moment member
    rcases List.mem_cons.mp member with rfl | earlier
    · exact .inr own
    · exact ih moment earlier

theorem alone_did {deed : Deed} {after : Shared}
    (allowed : world.Allows ⟨number, deed, world.shared, after⟩)
    (vacant : (world.did number deed after).Vacant regime) :
    Alone regime number world (world.did number deed after) :=
  .single ⟨⟨_, rfl, allowed, rfl⟩, vacant⟩

/-- A moment keeps the free locks free if it gives back none but free ones. -/
theorem Vacant.add {moment : Moment} (vacant : world.Vacant regime) (stable : regime.Stable)
    (allowed : world.Allows moment)
    (released : ∀ lock, moment.deed = .released lock → regime.free lock (world.add moment)) :
    (world.add moment).Vacant regime := by
  intro lock unheld
  by_cases returned : moment.deed = .released lock
  · exact released lock returned
  by_cases taken : moment.deed = .took lock
  · rw [holder_add_took taken] at unheld
    cases unheld
  · have before : world.holder lock = none := by rwa [holder_add_of_apart taken returned] at unheld
    exact stable lock world moment before (vacant lock before) allowed unheld

end World

namespace Waiting

/-- What others do does not move a task from where it stands. -/
theorem Stands.meanwhile {waiting : Waiting α} (stands : waiting.Stands regime number post world)
    (meanwhile : world.Meanwhile number later) : waiting.Stands regime number post later := by
  cases waiting with
  | finished outcome =>
    obtain ⟨ending, ended, idle, since⟩ := stands
    exact ⟨ending, ended, idle, since.trans meanwhile⟩
  | forAnswer request answer next =>
    refine ⟨stands.1.keeps fun lock => meanwhile.calmly.holder_iff.mpr, ?_⟩
    exact fun final since => stands.2 final (meanwhile.trans since)
  | forLock lock next =>
    refine ⟨fun held holds => stands.1 held (meanwhile.calmly.holder_iff.mp holds), ?_⟩
    exact fun final since => stands.2 final (meanwhile.trans since)
  | forTurn next => exact fun final since => stands final (meanwhile.trans since)

/-- A task that can go on does so with an allowed moment. -/
theorem Stands.wake {waiting : Waiting α} (stands : waiting.Stands regime number post world)
    (stable : regime.Stable) (ready : waiting.isReady world.shared = true)
    (consistent : world.Consistent) (vacant : world.Vacant regime) :
    World.Alone regime number world (waiting.wake number world) ∧
      waiting.remaining.Fulfils regime number post (waiting.wake number world) := by
  cases waiting with
  | finished outcome => cases ready
  | forAnswer request answer next =>
    have allowed := World.allows_answered answer stands.1
    exact ⟨World.alone_did allowed (vacant.add stable allowed (by simp)), (stands.2 world .refl).1⟩
  | forLock lock next =>
    have unlocked : lock ∉ world.shared.locked := by simpa [isReady] using ready
    have unheld : world.holder lock = none := by
      rw [consistent.mem_locked] at unlocked
      simpa using unlocked
    have allowed : world.Allows ⟨number, .took lock, world.shared, world.shared.lock lock⟩ :=
      World.allows_took unheld
    exact ⟨World.alone_did allowed (vacant.add stable allowed (by simp)),
      (stands.2 world .refl).1 unheld (vacant lock unheld)⟩
  | forTurn next =>
    have allowed : world.Allows ⟨number, .resumed, world.shared, world.shared⟩ :=
      World.allows_of_quiet trivial rfl
    exact ⟨World.alone_did allowed (vacant.add stable allowed (by simp)), (stands world .refl).1⟩

/-- A task whose wait is broken off goes on from there. -/
theorem Stands.interrupted {waiting : Waiting α} (stands : waiting.Stands regime number post world)
    (unfinished : ∀ outcome, waiting ≠ .finished outcome) {fault : Fault}
    (breaks : regime.breaks fault) :
    (waiting.interrupted fault).Fulfils regime number post (world.stops number fault) := by
  cases waiting with
  | finished outcome => exact absurd rfl (unfinished outcome)
  | forAnswer request answer next => exact (stands.2 world .refl).2 fault breaks
  | forLock lock next => exact (stands.2 world .refl).2 fault breaks
  | forTurn next => exact (stands world .refl).2 fault breaks

end Waiting

namespace Routine

/-- Carrying a routine to its next wait does what is allowed, and the task then stands where the
rest of the routine ensures what the whole did. -/
theorem Fulfils.enact {routine : Routine α} (fulfils : routine.Fulfils regime number post world)
    (stable : regime.Stable) (contended : List Lock) (consistent : world.Consistent)
    (vacant : world.Vacant regime) :
    World.Alone regime number world (routine.enact regime.endpoint contended number world) ∧
      (routine.advance regime.endpoint contended world.shared).2.Stands regime number post
        (routine.enact regime.endpoint contended number world) := by
  have onwards {world next final : World} {standing : Prop}
      (alone : World.Alone regime number world next)
      (rest : World.Alone regime number next final ∧ standing) :
      World.Alone regime number world final ∧ standing :=
    ⟨alone.trans rest.1, rest.2⟩
  induction routine generalizing world with
  | done outcome => exact ⟨.refl, world, fulfils.1, fulfils.2, .refl⟩
  | look next ih => exact ih world.shared fulfils consistent vacant
  | update change next ih =>
    obtain ⟨allowed, released, ensured⟩ := fulfils
    have alone := World.alone_did allowed (vacant.add stable allowed released)
    exact onwards alone (ih ensured (alone.leads.consistent consistent) (alone.vacant vacant))
  | exchange request next ih =>
    simp only [Fulfils, Ensures] at fulfils
    obtain ⟨allowed, ensured⟩ := fulfils
    have sending : World.Alone regime number world (world.sends number request) :=
      World.alone_did allowed (vacant.add stable allowed (by simp))
    have entitles : (world.sends number request).Entitles number (.sent request) :=
      World.Entitles.keeps allowed.entitled fun lock holds => by
        rw [World.sends, World.did, World.holder_add_of_apart (by simp) (by simp)]
        exact holds
    simp only [Routine.enact, advance]
    cases delivery : regime.endpoint world.shared.sent request with
    | later answer =>
      simp only [delivery] at ensured
      exact ⟨sending, entitles, ensured⟩
    | atOnce answer =>
      simp only [delivery] at ensured
      have heard := World.allows_answered answer entitles
      have hearing : World.Alone regime number world
          ((world.sends number request).hears number request answer) :=
        sending.trans (World.alone_did heard ((sending.vacant vacant).add stable heard (by simp)))
      exact onwards hearing
        (ih answer ensured (hearing.leads.consistent consistent) (hearing.vacant vacant))
  | acquire lock next ih =>
    simp only [Routine.enact, advance]
    split
    · exact ⟨.refl, fulfils⟩
    · rename_i free
      have unlocked : lock ∉ world.shared.locked := fun locked => free (by simp [locked])
      have unheld : world.holder lock = none := by
        rw [consistent.mem_locked] at unlocked
        simpa using unlocked
      have allowed : world.Allows ⟨number, .took lock, world.shared, world.shared.lock lock⟩ :=
        World.allows_took unheld
      have taking : World.Alone regime number world (world.takes number lock) :=
        World.alone_did allowed (vacant.add stable allowed (by simp))
      exact onwards taking (ih (.ok ()) ((fulfils.2 world .refl).1 unheld (vacant lock unheld))
        (taking.leads.consistent consistent) (taking.vacant vacant))
  | pause next ih => exact ⟨.refl, fulfils⟩

end Routine

namespace Course

/-- Where a course stands in which every task keeps what its routine ensures. -/
structure Sound (regime : Regime) (post : Nat → Except Fault α → World → Prop) (shared : Shared)
    (course : Course α) : Prop where
  leads : World.Leads ⟨shared, []⟩ course.world
  consistent : course.world.Consistent
  /-- At any time every lock that nobody holds is free. -/
  upheld : ∀ world, course.Passes world → world.Vacant regime
  stands : ∀ number (waiting : Waiting α), course.crew.tasks[number]? = some waiting →
    waiting.Stands regime number (post number) course.world
  known : ∀ moment ∈ course.past, moment.task < course.crew.tasks.length

variable {posts : Nat → Except Fault α → World → Prop} {shared : Shared} {course next : Course α}

theorem Sound.passed (sound : course.Sound regime posts shared) {world : World}
    (passed : course.Passes world) :
    World.Leads ⟨shared, []⟩ world ∧ world.past <:+ course.past := by
  rcases passed with rfl | ⟨moment, earlier, suffix, rfl⟩
  · exact ⟨sound.leads, List.suffix_rfl⟩
  · exact ⟨sound.leads.of_suffix suffix, suffix⟩

theorem Sound.vacant (sound : course.Sound regime posts shared) : course.world.Vacant regime :=
  sound.upheld _ (.inl rfl)

/-- One task goes on while the others stand still. -/
private theorem Sound.proceed (sound : course.Sound regime posts shared) {routine : Routine α}
    {start : World} (carries : Carries regime.endpoint course next number routine start)
    (onwards : World.Alone regime number course.world start)
    (fulfils : routine.Fulfils regime number (posts number) start) (stable : regime.Stable) :
    next.Sound regime posts shared := by
  obtain ⟨alone, stands⟩ := fulfils.enact stable (course.crew.contended number)
    (onwards.leads.consistent sound.consistent) (onwards.vacant sound.vacant)
  rw [← carries.world] at alone stands
  have since : World.Alone regime number course.world next.world := onwards.trans alone
  refine ⟨sound.leads.trans since.leads, since.leads.consistent sound.consistent, ?_, ?_, ?_⟩
  · rintro world (rfl | ⟨moment, earlier, suffix, rfl⟩)
    · exact since.vacant sound.vacant
    · exact (since.upheld suffix).elim
        (fun before => sound.upheld _ (.inr ⟨moment, earlier, before, rfl⟩)) id
  · intro other standing at?
    by_cases same : other = number
    · subst same
      rw [carries.own] at at?
      cases at?
      exact stands
    · rw [carries.others other same] at at?
      exact (sound.stands other standing at?).meanwhile (since.meanwhile (Ne.symm same))
  · intro moment member
    rcases since.tasks moment member with earlier | rfl
    · exact carries.known (sound.known moment earlier)
    · exact (List.getElem?_eq_some_iff.mp carries.own).1

theorem Sound.join (sound : course.Sound regime posts shared) (stable : regime.Stable)
    {routine : Routine α}
    (fulfils : routine.Fulfils regime course.crew.tasks.length (posts course.crew.tasks.length)
      course.world) :
    (course.join regime.endpoint routine).Sound regime posts shared :=
  sound.proceed (course.carries_join regime.endpoint routine) .refl fulfils stable

theorem Sound.resume (sound : course.Sound regime posts shared) (stable : regime.Stable)
    (number : Nat) : (course.resume regime.endpoint number).Sound regime posts shared := by
  by_cases able : course.CanResume number
  · obtain ⟨waiting, at?, ready⟩ := able
    obtain ⟨waking, remaining⟩ :=
      (sound.stands number waiting at?).wake stable ready sound.consistent sound.vacant
    exact sound.proceed (course.carries_resume regime.endpoint at? ready) waking remaining stable
  · rwa [resume_of_not_canResume regime.endpoint course able]

theorem Sound.interrupt (sound : course.Sound regime posts shared) (stable : regime.Stable)
    (number : Nat) {fault : Fault} (breaks : regime.breaks fault) :
    (course.interrupt regime.endpoint number fault).Sound regime posts shared := by
  by_cases idle : ∀ waiting, course.crew.tasks[number]? = some waiting →
      ∃ outcome, waiting = .finished outcome
  · rwa [interrupt_of_finished regime.endpoint course fault idle]
  · simp only [Classical.not_forall, not_exists] at idle
    obtain ⟨waiting, at?, unfinished⟩ := idle
    have broken := (sound.stands number waiting at?).interrupted unfinished breaks
    have allowed : course.world.Allows
        ⟨number, .interrupted fault, course.world.shared, course.world.shared⟩ :=
      World.allows_of_quiet trivial rfl
    have stopping : World.Alone regime number course.world (course.world.stops number fault) :=
      World.alone_did allowed (sound.vacant.add stable allowed (by simp))
    exact sound.proceed (course.carries_interrupt regime.endpoint fault at? unfinished) stopping
      broken stable

theorem length_join {endpoint : Endpoint} {routine : Routine α} :
    (course.join endpoint routine).crew.tasks.length = course.crew.tasks.length + 1 := by
  rw [tasks_join, List.length_append, List.length_singleton]

theorem length_resume {endpoint : Endpoint} :
    (course.resume endpoint number).crew.tasks.length = course.crew.tasks.length := by
  by_cases able : course.CanResume number
  · obtain ⟨waiting, at?, ready⟩ := able
    rw [course.tasks_resume endpoint at? ready, List.length_set]
  · rw [resume_of_not_canResume endpoint course able]

theorem length_interrupt {endpoint : Endpoint} {fault : Fault} :
    (course.interrupt endpoint number fault).crew.tasks.length = course.crew.tasks.length := by
  by_cases idle : ∀ waiting, course.crew.tasks[number]? = some waiting →
      ∃ outcome, waiting = .finished outcome
  · rw [interrupt_of_finished endpoint course fault idle]
  · simp only [Classical.not_forall, not_exists] at idle
    obtain ⟨waiting, at?, unfinished⟩ := idle
    rw [course.tasks_interrupt endpoint fault at? unfinished, List.length_set]

variable {routine : Task → Routine α} {events : List (Event Task)}

theorem length_follow {endpoint : Endpoint} :
    (course.follow endpoint routine events).crew.tasks.length =
      course.crew.tasks.length + (Event.begun events).length := by
  induction events generalizing course with
  | nil => rfl
  | cons event rest ih =>
    apply (@ih (course.step endpoint routine event)).trans
    cases event with
    | begins task =>
      simp only [step, length_join, Event.begun, List.filterMap_cons, List.length_cons]
      omega
    | turn number => simp only [step, length_resume, Event.begun, List.filterMap_cons]
    | interruption number fault =>
      simp only [step, length_interrupt, Event.begun, List.filterMap_cons]

/-- The course of a sound beginning stays sound, whatever happens. -/
private theorem Sound.follow {tasks : List Task} (stable : regime.Stable)
    (fulfils : ∀ number task, tasks[number]? = some task → ∀ world,
      World.Leads ⟨shared, []⟩ world → (∀ moment ∈ world.past, moment.task ≠ number) →
        (routine task).Fulfils regime number (posts number) world)
    (sound : course.Sound regime posts shared)
    (begun : Event.begun events <+: tasks.drop course.crew.tasks.length)
    (breaks : Event.Breaks regime.breaks events) :
    (course.follow regime.endpoint routine events).Sound regime posts shared := by
  induction events generalizing course with
  | nil => exact sound
  | cons event rest ih =>
    have breaksRest : Event.Breaks regime.breaks rest := fun number fault member =>
      breaks number fault (List.mem_cons_of_mem _ member)
    cases event with
    | begins task =>
      obtain ⟨beyond, split⟩ := begun
      have next : tasks[course.crew.tasks.length]? = some task := by
        rw [← List.head?_drop, ← split]
        rfl
      have unknown : ∀ moment ∈ course.past, moment.task ≠ course.crew.tasks.length :=
        fun moment member => Nat.ne_of_lt (sound.known moment member)
      refine ih (sound.join stable (fulfils _ task next course.world sound.leads unknown)) ?_
        breaksRest
      simp only [step]
      rw [length_join, ← List.drop_drop, ← split]
      exact ⟨beyond, rfl⟩
    | turn number =>
      refine ih (sound.resume stable number) ?_ breaksRest
      simp only [step]
      rw [length_resume]
      exact begun
    | interruption number fault =>
      refine ih (sound.interrupt stable number (breaks number fault List.mem_cons_self)) ?_
        breaksRest
      simp only [step]
      rw [length_interrupt]
      exact begun

/-- **Soundness of courses.** If every routine fulfils something by itself, from any world in which
its task has not done anything yet, then every course keeps it, in any order of events. -/
theorem sound_follow (tasks : List Task) (stable : regime.Stable)
    (fulfils : ∀ number task, tasks[number]? = some task → ∀ world,
      World.Leads ⟨shared, []⟩ world → (∀ moment ∈ world.past, moment.task ≠ number) →
        (routine task).Fulfils regime number (posts number) world)
    (unlocked : shared.locked = []) (free : ∀ lock, regime.free lock ⟨shared, []⟩)
    (begun : Event.begun events <+: tasks) (breaks : Event.Breaks regime.breaks events) :
    ((initial shared).follow regime.endpoint routine events).Sound regime posts shared := by
  have sound : (initial shared : Course α).Sound regime posts shared :=
    { leads := .refl
      consistent := fun lock => by
        simp [world, initial, unlocked, World.holder, History.holder]
      upheld := fun world passed lock _ => by
        rcases passed with rfl | ⟨moment, earlier, suffix, rfl⟩
        · exact free lock
        · exact absurd (List.suffix_nil.mp suffix) (List.cons_ne_nil _ _)
      stands := fun number waiting at? => by simp [initial] at at?
      known := fun moment member => by simp [initial] at member }
  exact sound.follow stable fulfils begun breaks

end Course

end SessionKeeper
