import SessionKeeper.Task.Routine

/-! # Crews

Tasks that share one session and take turns. Which task has the next turn is not theirs to decide:
`Crew.resume` gives a turn to any task that can go on, and a schedule is a list of such choices.

The orderly schedule, `Crew.turn`, takes the tasks in the order in which their waits ended. A lock
that is given back is promised to the task that asked for it first; until that task has its turn,
everybody else who asks for the lock has to wait, so nobody is overtaken.
-/

namespace SessionKeeper

structure Crew (α : Type) where
  shared : Shared
  tasks : List (Waiting α)
  /-- The tasks that have been promised a turn, the next one first. -/
  promised : List Nat
  /-- The tasks that wait for a lock, in the order in which they asked for it. -/
  queue : List Nat

namespace Crew

variable {α : Type} (endpoint : Endpoint)

/-- The lock that the task with a number waits for. -/
def lockOf? (crew : Crew α) (number : Nat) : Option Lock := (crew.tasks[number]?).bind (·.lock?)

/-- The locks that tasks other than that with a number wait for. -/
def contended (crew : Crew α) (number : Nat) : List Lock :=
  (crew.queue.erase number).filterMap crew.lockOf?

/-- The tasks that free locks are to be promised to: of those that wait for a lock the first one. -/
def heirs (crew : Crew α) : List Nat :=
  (Lock.all.filter (· ∉ crew.shared.locked)).filterMap fun lock =>
    crew.queue.find? fun number => crew.lockOf? number == some lock

/-- Put the task with a number in line after its turn: into the queue if it waits for a lock, and
behind the heirs of free locks if its wait ends by itself. -/
def settle (crew : Crew α) (number : Nat) (waiting : Waiting α) : Crew α :=
  let queue := crew.queue.erase number
  let promised := crew.promised.erase number
  let queued := { crew with queue := if waiting.lock?.isSome then queue ++ [number] else queue }
  let heirs := queued.heirs.filter (· ∉ promised)
  { queued with
    promised := promised ++ heirs ++ if waiting.endsByItself then [number] else [] }

/-- Carry a routine to its next wait, as the task with a number. -/
def proceed (crew : Crew α) (number : Nat) (routine : Routine α) : Crew α :=
  let (shared, waiting) := routine.advance endpoint (crew.contended number) crew.shared
  { crew with shared := shared, tasks := crew.tasks.set number waiting }.settle number waiting

/-- One more task, carried to its first wait. -/
def join (crew : Crew α) (routine : Routine α) : Crew α :=
  let number := crew.tasks.length
  let (shared, waiting) := routine.advance endpoint (crew.contended number) crew.shared
  { crew with shared := shared, tasks := crew.tasks ++ [waiting] }.settle number waiting

def start (shared : Shared) (routines : List (Routine α)) : Crew α :=
  routines.foldl (join endpoint) ⟨shared, [], [], []⟩

/-- Give a turn to the task with a number, if it can go on. -/
def resume (crew : Crew α) (number : Nat) : Crew α :=
  match crew.tasks[number]? with
  | some waiting =>
    if waiting.isReady crew.shared then crew.proceed endpoint number waiting.rest else crew
  | none => crew

def interrupt (crew : Crew α) (number : Nat) (fault : Fault) : Crew α :=
  match crew.tasks[number]? with
  | some (.finished _) | none => crew
  | some waiting => crew.proceed endpoint number (waiting.interrupted fault)

def follow (crew : Crew α) (schedule : List Nat) : Crew α :=
  schedule.foldl (resume endpoint) crew

/-- Keep the oldest promise of a turn; `none` if there is none. -/
def turn (crew : Crew α) : Option (Crew α) :=
  match crew.promised with
  | [] => none
  | number :: rest => some ({ crew with promised := rest }.resume endpoint number)

def outcomes (crew : Crew α) : List (Option (Except Fault α)) := crew.tasks.map (·.outcome?)

end Crew

end SessionKeeper
