import SessionKeeper.Proofs.Task.History
import SessionKeeper.Task.Crew

/-! # Courses

A crew together with the history of what its tasks did. A course goes on by events: a task begins, a
task gets a turn, or the wait of a task is broken off. Which event comes next is nobody's decision
here, so a statement about every list of events is one about every interleaving.

The crew of a course is carried on by `Crew.join`, `Crew.resume` and `Crew.interrupt` alone;
`Routine.enact` writes the history of the same steps (`Routine.shared_enact`).
-/

namespace SessionKeeper

namespace Routine

variable {α : Type} (endpoint : Endpoint) (contended : List Lock) (number : Nat)

/-- The world after a task has carried a routine to its next wait. -/
def enact : Routine α → World → World
  | done _, world => world
  | look next, world => (next world.shared).enact world
  | update change next, world => next.enact (world.updates number change)
  | exchange request next, world =>
    match endpoint world.shared.sent request with
    | .atOnce answer =>
      (next answer).enact ((world.sends number request).hears number request answer)
    | .later _ => world.sends number request
  | acquire lock next, world =>
    if lock ∈ world.shared.locked || lock ∈ contended then world
    else (next (.ok ())).enact (world.takes number lock)
  | pause _, world => world

theorem shared_enact (routine : Routine α) (world : World) :
    (routine.enact endpoint contended number world).shared =
      (routine.advance endpoint contended world.shared).1 := by
  induction routine generalizing world with
  | done outcome => rfl
  | look next ih => exact ih world.shared world
  | update change next ih => exact ih (world.updates number change)
  | exchange request next ih =>
    simp only [enact, advance]
    cases endpoint world.shared.sent request with
    | atOnce answer => exact ih answer ((world.sends number request).hears number request answer)
    | later answer => rfl
  | acquire lock next ih =>
    simp only [enact, advance]
    split
    · rfl
    · exact ih (.ok ()) (world.takes number lock)
  | pause next ih => rfl

theorem suffix_enact (routine : Routine α) (world : World) :
    world.past <:+ (routine.enact endpoint contended number world).past := by
  induction routine generalizing world with
  | done outcome => exact List.suffix_rfl
  | look next ih => exact ih world.shared world
  | update change next ih => exact (List.suffix_cons _ _).trans (ih (world.updates number change))
  | exchange request next ih =>
    simp only [enact]
    cases endpoint world.shared.sent request with
    | atOnce answer =>
      exact ((List.suffix_cons _ _).trans (List.suffix_cons _ _)).trans
        (ih answer ((world.sends number request).hears number request answer))
    | later answer => exact List.suffix_cons _ _
  | acquire lock next ih =>
    simp only [enact]
    split
    · exact List.suffix_rfl
    · exact (List.suffix_cons _ _).trans (ih (.ok ()) (world.takes number lock))
  | pause next ih => exact List.suffix_rfl

end Routine

namespace Waiting

variable {α : Type}

/-- The world in which the wait of a task has ended. -/
def wake (number : Nat) (world : World) : Waiting α → World
  | finished _ => world
  | forAnswer request answer _ => world.hears number request answer
  | forLock lock _ => world.takes number lock
  | forTurn _ => world.wakes number

/-- What is left to do in that world. -/
def remaining : Waiting α → Routine α
  | finished outcome => .done outcome
  | forAnswer _ answer next => next answer
  | forLock _ next => next (.ok ())
  | forTurn next => next (.ok ())

theorem advance_rest (waiting : Waiting α) (endpoint : Endpoint) (contended : List Lock)
    (number : Nat) (world : World) :
    waiting.rest.advance endpoint contended world.shared =
      waiting.remaining.advance endpoint contended (waiting.wake number world).shared := by
  cases waiting <;> rfl

end Waiting

/-- A crew, and what its tasks have done. -/
structure Course (α : Type) where
  crew : Crew α
  past : History

/-- What can happen to a crew whose tasks are given by descriptions. -/
inductive Event (Task : Type) where
  | begins (task : Task)
  | turn (number : Nat)
  | interruption (number : Nat) (fault : Fault)

namespace Event

variable {Task : Type}

/-- The tasks that begin, in their order. -/
def begun (events : List (Event Task)) : List Task :=
  events.filterMap fun
    | begins task => some task
    | _ => none

/-- Waits are broken off by faults of some kind only. -/
def Breaks (breaks : Fault → Prop) (events : List (Event Task)) : Prop :=
  ∀ number fault, interruption number fault ∈ events → breaks fault

end Event

namespace Course

variable {α Task : Type} (endpoint : Endpoint)

/-- The course before any task has begun. -/
def initial (shared : Shared) : Course α := ⟨⟨shared, [], [], []⟩, []⟩

/-- What is shared, and what has been done. -/
def world (course : Course α) : World := ⟨course.crew.shared, course.past⟩

/-- One more task begins. -/
def join (course : Course α) (routine : Routine α) : Course α :=
  let number := course.crew.tasks.length
  ⟨course.crew.join endpoint routine,
    (routine.enact endpoint (course.crew.contended number) number course.world).past⟩

/-- The task with a number gets a turn, if it can go on. -/
def resume (course : Course α) (number : Nat) : Course α :=
  ⟨course.crew.resume endpoint number,
    match course.crew.tasks[number]? with
    | some waiting =>
      if waiting.isReady course.crew.shared then
        (waiting.remaining.enact endpoint (course.crew.contended number) number
          (waiting.wake number course.world)).past
      else course.past
    | none => course.past⟩

/-- The wait of the task with a number is broken off. -/
def interrupt (course : Course α) (number : Nat) (fault : Fault) : Course α :=
  ⟨course.crew.interrupt endpoint number fault,
    match course.crew.tasks[number]? with
    | some (.finished _) | none => course.past
    | some waiting =>
      ((waiting.interrupted fault).enact endpoint (course.crew.contended number) number
        (course.world.stops number fault)).past⟩

variable (routine : Task → Routine α)

/-- One event, with the routine of each task that may begin. -/
def step (course : Course α) : Event Task → Course α
  | .begins task => course.join endpoint (routine task)
  | .turn number => course.resume endpoint number
  | .interruption number fault => course.interrupt endpoint number fault

/-- One event after the other. -/
def follow (course : Course α) (events : List (Event Task)) : Course α :=
  events.foldl (step endpoint routine) course

/-- The course stands in a world, or did so after one of its moments. -/
def Passes (course : Course α) (world : World) : Prop :=
  world = course.world ∨
    ∃ moment earlier, moment :: earlier <:+ course.past ∧ world = ⟨moment.after, moment :: earlier⟩

/-- Every task has come to its end. -/
def IsOver (course : Course α) : Prop :=
  ∀ waiting ∈ course.crew.tasks, ∃ outcome, waiting = .finished outcome

/-- The task with a number has come to its end with an outcome. -/
def Returns (course : Course α) (number : Nat) (outcome : Except Fault α) : Prop :=
  course.crew.tasks[number]? = some (.finished outcome)

theorem Returns.unique {course : Course α} {number : Nat} {first second : Except Fault α}
    (one : course.Returns number first) (other : course.Returns number second) :
    first = second := by
  unfold Returns at one other
  rw [one] at other
  cases other
  rfl

/-- What the task with a number has come to: the label of a fault, or a value. -/
def reported? (course : Course α) (number : Nat) : Option (String ⊕ α) :=
  match course.crew.tasks[number]? with
  | some (.finished (.error fault)) => some (.inl fault.label)
  | some (.finished (.ok value)) => some (.inr value)
  | _ => none

theorem returns_of_reported? {course : Course α} {number : Nat} {value : α}
    (reported : course.reported? number = some (.inr value)) :
    course.Returns number (.ok value) := by
  unfold reported? at reported
  split at reported
  · cases reported
  · rename_i other finished
    cases reported
    exact finished
  · cases reported

theorem exists_returns_of_reported? {course : Course α} {number : Nat} {label : String}
    (reported : course.reported? number = some (.inl label)) :
    ∃ fault : Fault, fault.label = label ∧ course.Returns number (.error fault) := by
  unfold reported? at reported
  split at reported
  · rename_i fault finished
    cases reported
    exact ⟨fault, rfl, finished⟩
  · cases reported
  · cases reported

/-- The task with a number can go on. -/
def CanResume (course : Course α) (number : Nat) : Prop :=
  ∃ waiting, course.crew.tasks[number]? = some waiting ∧
    waiting.isReady course.crew.shared = true

/-- However the turns are given, they come to an end, and at the end of them a property holds. -/
inductive Inevitably (property : Course α → Prop) : Course α → Prop
  | intro (course : Course α)
      (onwards : ∀ number, course.CanResume number →
        Inevitably property (course.resume endpoint number))
      (ended : (∀ number, ¬ course.CanResume number) → property course) :
      Inevitably property course

end Course

/-! ## The crew of a course -/

namespace Course

variable {α : Type} (endpoint : Endpoint) (course : Course α)

/-- Where a task stands after it was carried to its next wait. -/
def standing (number : Nat) (routine : Routine α) (world : World) : Waiting α :=
  (routine.advance endpoint (course.crew.contended number) world.shared).2

theorem tasks_join (routine : Routine α) :
    (course.join endpoint routine).crew.tasks = course.crew.tasks ++
      [course.standing endpoint course.crew.tasks.length routine course.world] := rfl

theorem world_join (routine : Routine α) :
    (course.join endpoint routine).world =
      routine.enact endpoint (course.crew.contended course.crew.tasks.length)
        course.crew.tasks.length course.world := by
  have same := routine.shared_enact endpoint (course.crew.contended course.crew.tasks.length)
    course.crew.tasks.length course.world
  cases world : routine.enact endpoint (course.crew.contended course.crew.tasks.length)
    course.crew.tasks.length course.world
  simp only [world] at same
  simp only [Course.world, join] at world ⊢
  rw [world, same]
  rfl

variable {number : Nat} {waiting : Waiting α}

theorem tasks_resume (at? : course.crew.tasks[number]? = some waiting)
    (ready : waiting.isReady course.crew.shared = true) :
    (course.resume endpoint number).crew.tasks = course.crew.tasks.set number
      (course.standing endpoint number waiting.remaining (waiting.wake number course.world)) := by
  have same := waiting.advance_rest endpoint (course.crew.contended number) number course.world
  simp only [resume, Crew.resume, at?, ready, Crew.proceed, standing, if_true] at same ⊢
  rw [← same]
  rfl

theorem world_resume (at? : course.crew.tasks[number]? = some waiting)
    (ready : waiting.isReady course.crew.shared = true) :
    (course.resume endpoint number).world =
      waiting.remaining.enact endpoint (course.crew.contended number) number
        (waiting.wake number course.world) := by
  have same := waiting.advance_rest endpoint (course.crew.contended number) number course.world
  have shared := waiting.remaining.shared_enact endpoint (course.crew.contended number) number
    (waiting.wake number course.world)
  rw [← same] at shared
  cases world : waiting.remaining.enact endpoint (course.crew.contended number) number
    (waiting.wake number course.world)
  simp only [world] at shared
  simp only [Course.world, resume, Crew.resume, at?, ready, Crew.proceed, if_true] at world ⊢
  rw [world, shared]
  rfl

theorem suffix_resume (number : Nat) :
    course.past <:+ (course.resume endpoint number).past := by
  cases at? : course.crew.tasks[number]? with
  | none => simp [resume, at?]
  | some waiting =>
    simp only [resume, at?]
    split
    · have woken : course.past <:+ (waiting.wake number course.world).past := by
        cases waiting with
        | finished outcome => exact List.suffix_rfl
        | _ => exact List.suffix_cons _ _
      exact woken.trans (Routine.suffix_enact _ _ _ _ _)
    · exact List.suffix_rfl

theorem resume_of_not_canResume (stuck : ¬ course.CanResume number) :
    course.resume endpoint number = course := by
  cases at? : course.crew.tasks[number]? with
  | none => simp [resume, Crew.resume, at?]
  | some waiting =>
    have idle : waiting.isReady course.crew.shared ≠ true :=
      fun ready => stuck ⟨waiting, at?, ready⟩
    simp [resume, Crew.resume, at?, idle]

theorem tasks_interrupt (fault : Fault) (at? : course.crew.tasks[number]? = some waiting)
    (unfinished : ∀ outcome, waiting ≠ .finished outcome) :
    (course.interrupt endpoint number fault).crew.tasks = course.crew.tasks.set number
      (course.standing endpoint number (waiting.interrupted fault)
        (course.world.stops number fault)) := by
  cases waiting with
  | finished outcome => exact absurd rfl (unfinished outcome)
  | _ => simp only [interrupt, Crew.interrupt, at?]; rfl

theorem world_interrupt (fault : Fault) (at? : course.crew.tasks[number]? = some waiting)
    (unfinished : ∀ outcome, waiting ≠ .finished outcome) :
    (course.interrupt endpoint number fault).world =
      (waiting.interrupted fault).enact endpoint (course.crew.contended number) number
        (course.world.stops number fault) := by
  have shared := (waiting.interrupted fault).shared_enact endpoint (course.crew.contended number)
    number (course.world.stops number fault)
  cases world : (waiting.interrupted fault).enact endpoint (course.crew.contended number) number
    (course.world.stops number fault)
  simp only [world] at shared
  cases waiting with
  | finished outcome => exact absurd rfl (unfinished outcome)
  | _ =>
    simp only [Course.world, interrupt, Crew.interrupt, at?] at world ⊢
    rw [world, shared]
    rfl

theorem interrupt_of_finished (fault : Fault)
    (idle : ∀ waiting, course.crew.tasks[number]? = some waiting →
      ∃ outcome, waiting = .finished outcome) :
    course.interrupt endpoint number fault = course := by
  cases at? : course.crew.tasks[number]? with
  | none => simp [interrupt, Crew.interrupt, at?]
  | some waiting =>
    obtain ⟨outcome, rfl⟩ := idle waiting at?
    simp [interrupt, Crew.interrupt, at?]

/-- The task with a number went on with a routine from a world, and the others stood still. -/
structure Carries (endpoint : Endpoint) (course next : Course α) (number : Nat)
    (routine : Routine α) (start : World) : Prop where
  world : next.world = routine.enact endpoint (course.crew.contended number) number start
  own : next.crew.tasks[number]? = some (course.standing endpoint number routine start)
  others : ∀ other, other ≠ number → next.crew.tasks[other]? = course.crew.tasks[other]?

theorem carries_join (routine : Routine α) :
    Carries endpoint course (course.join endpoint routine) course.crew.tasks.length routine
      course.world where
  world := course.world_join endpoint routine
  own := by simp [tasks_join]
  others other different := by
    rw [tasks_join]
    rcases Nat.lt_or_gt_of_ne different with below | above
    · exact List.getElem?_append_left below
    · rw [List.getElem?_eq_none (Nat.le_of_lt above), List.getElem?_eq_none]
      rw [List.length_append, List.length_singleton]
      exact above

theorem carries_resume (at? : course.crew.tasks[number]? = some waiting)
    (ready : waiting.isReady course.crew.shared = true) :
    Carries endpoint course (course.resume endpoint number) number waiting.remaining
      (waiting.wake number course.world) where
  world := course.world_resume endpoint at? ready
  own := by
    rw [course.tasks_resume endpoint at? ready]
    exact List.getElem?_set_self (List.getElem?_eq_some_iff.mp at?).1
  others other different := by
    rw [course.tasks_resume endpoint at? ready, List.getElem?_set_ne (Ne.symm different)]

theorem carries_interrupt (fault : Fault) (at? : course.crew.tasks[number]? = some waiting)
    (unfinished : ∀ outcome, waiting ≠ .finished outcome) :
    Carries endpoint course (course.interrupt endpoint number fault) number
      (waiting.interrupted fault) (course.world.stops number fault) where
  world := course.world_interrupt endpoint fault at? unfinished
  own := by
    rw [course.tasks_interrupt endpoint fault at? unfinished]
    exact List.getElem?_set_self (List.getElem?_eq_some_iff.mp at?).1
  others other different := by
    rw [course.tasks_interrupt endpoint fault at? unfinished,
      List.getElem?_set_ne (Ne.symm different)]

namespace Carries

variable {endpoint course} {next : Course α} {routine : Routine α} {start : World}
  (carries : Carries endpoint course next number routine start)

include carries

theorem shared : next.crew.shared =
    (routine.advance endpoint (course.crew.contended number) start.shared).1 := by
  rw [← routine.shared_enact endpoint (course.crew.contended number) number start, ← carries.world]
  rfl

theorem past : next.past =
    (routine.enact endpoint (course.crew.contended number) number start).past := by
  rw [← carries.world]
  rfl

/-- Nobody goes away. -/
theorem known {other : Nat} (bound : other < course.crew.tasks.length) :
    other < next.crew.tasks.length := by
  by_cases same : other = number
  · exact same ▸ (List.getElem?_eq_some_iff.mp carries.own).1
  · have at? := List.getElem?_eq_getElem bound
    rw [← carries.others other same] at at?
    exact (List.getElem?_eq_some_iff.mp at?).1

end Carries

end Course

end SessionKeeper
