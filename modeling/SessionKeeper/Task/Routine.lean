import SessionKeeper.Fault.Reported
import SessionKeeper.Task.Shared

/-! # Routines

A routine is what a task does: looks at what is shared and changes of it, with waits between them.
Between two waits nothing else happens, so a routine says exactly where other tasks can get in:
while it waits for an answer, for a lock, or for its next turn. A wait can also end with a fault,
which is how a task is cancelled.

`Routine.run` carries a routine out alone. `Routine.advance` carries it to its next wait.
-/

namespace SessionKeeper

/-- What a task does, as a tree whose branches are what it may see and what its waits may end
with. -/
inductive Routine (α : Type) where
  | done (outcome : Except Fault α)
  | look (next : Shared → Routine α)
  | update (change : Shared → Shared) (next : Routine α)
  /-- Send a request and wait for the answer, unless it is there at once. -/
  | exchange (request : Request) (next : Answer → Routine α)
  /-- Take a lock, after waiting for it if it is taken. -/
  | acquire (lock : Lock) (next : Except Fault Unit → Routine α)
  | pause (next : Except Fault Unit → Routine α)

namespace Routine

variable {α β : Type}

/-- Go on with the outcome of a routine, a fault included. -/
def andThen (routine : Routine α) (next : Except Fault α → Routine β) : Routine β :=
  match routine with
  | done outcome => next outcome
  | look rest => look fun shared => (rest shared).andThen next
  | update change rest => update change (rest.andThen next)
  | exchange request rest => exchange request fun answer => (rest answer).andThen next
  | acquire lock rest => acquire lock fun granted => (rest granted).andThen next
  | pause rest => pause fun turn => (rest turn).andThen next

/-- Go on with the value of a routine; a fault ends both. -/
def bind (routine : Routine α) (next : α → Routine β) : Routine β :=
  routine.andThen fun
    | .ok value => next value
    | .error fault => done (.error fault)

instance : Monad Routine where
  pure value := done (.ok value)
  bind := bind

instance : MonadExcept Fault Routine where
  throw fault := done (.error fault)
  tryCatch routine handler := routine.andThen fun
    | .ok value => done (.ok value)
    | .error fault => handler fault

/-- The outcome of a routine as a value. -/
def attempt (routine : Routine α) : Routine (Except Fault α) :=
  routine.andThen fun outcome => done (.ok outcome)

/-- Do `last` whatever the outcome, which stands unless `last` itself ends with a fault. -/
def ensuring (routine : Routine α) (last : Routine Unit) : Routine α :=
  routine.andThen fun outcome => last.bind fun _ => done outcome

def get : Routine Shared := look fun shared => done (.ok shared)

def modify (change : Shared → Shared) : Routine Unit := update change (done (.ok ()))

/-- Change what is shared, and tell what came of it. -/
def modifyGet (change : Shared → α × Shared) : Routine α :=
  look fun shared => update (fun current => (change current).2) (done (.ok (change shared).1))

def say (level : Level) (message : Text) : Routine Unit := modify (·.say level message)

def reportError (notice : ErrorNotice) : Routine Unit := modify (·.reportError notice)

def ofExcept (outcome : Except Fault α) : Routine α := done outcome

/-- A reported outcome, its lines written to the log. -/
def ofReported (reported : Reported α) : Routine α :=
  update (fun shared =>
      reported.lines.foldl (fun shared line => shared.say line.1 line.2) shared)
    (done reported.outcome)

def yieldTurn : Routine Unit := pause done

def withLock (lock : Lock) (body : Routine α) : Routine α :=
  acquire lock fun
    | .ok () => body.ensuring (modify (·.unlock lock))
    | .error fault => done (.error fault)

/-! ## Carrying routines out -/

/-- Carry a routine out alone: every lock is free, every wait ends at once. -/
def run (endpoint : Endpoint) : Routine α → Shared → Shared × Except Fault α
  | done outcome, shared => (shared, outcome)
  | look next, shared => (next shared).run endpoint shared
  | update change next, shared => next.run endpoint (change shared)
  | exchange request next, shared =>
    (next (endpoint shared.sent request).answer).run endpoint (shared.send request)
  | acquire lock next, shared => (next (.ok ())).run endpoint (shared.lock lock)
  | pause next, shared => (next (.ok ())).run endpoint shared

end Routine

/-- Where a task stands between two turns. -/
inductive Waiting (α : Type) where
  | finished (outcome : Except Fault α)
  /-- The request is sent; its answer is on the way. -/
  | forAnswer (request : Request) (answer : Answer) (next : Answer → Routine α)
  | forLock (lock : Lock) (next : Except Fault Unit → Routine α)
  | forTurn (next : Except Fault Unit → Routine α)

/-- Carry a routine to its next wait. A lock that is free is taken without a wait, unless it is
`contended`: somebody else waits for it already. -/
def Routine.advance {α : Type} (endpoint : Endpoint) (contended : List Lock) :
    Routine α → Shared → Shared × Waiting α
  | .done outcome, shared => (shared, .finished outcome)
  | .look next, shared => (next shared).advance endpoint contended shared
  | .update change next, shared => next.advance endpoint contended (change shared)
  | .exchange request next, shared =>
    match endpoint shared.sent request with
    | .atOnce answer => (next answer).advance endpoint contended (shared.send request)
    | .later answer => (shared.send request, .forAnswer request answer next)
  | .acquire lock next, shared =>
    if lock ∈ shared.locked || lock ∈ contended then (shared, .forLock lock next)
    else (next (.ok ())).advance endpoint contended (shared.lock lock)
  | .pause next, shared => (shared, .forTurn next)

namespace Waiting

variable {α : Type}

/-- What is left to do once the wait has ended. Whoever waited for a lock has it now. -/
def rest : Waiting α → Routine α
  | finished outcome => .done outcome
  | forAnswer _ answer next => next answer
  | forLock lock next => .update (·.lock lock) (next (.ok ()))
  | forTurn next => next (.ok ())

/-- What is left to do once the wait was broken off by a fault. -/
def interrupted (fault : Fault) : Waiting α → Routine α
  | finished outcome => .done outcome
  | forAnswer _ _ next => next (.error fault)
  | forLock _ next => next (.error fault)
  | forTurn next => next (.error fault)

def outcome? : Waiting α → Option (Except Fault α)
  | finished outcome => some outcome
  | _ => none

def lock? : Waiting α → Option Lock
  | forLock lock _ => some lock
  | _ => none

/-- The wait ends without anybody's doing. -/
def endsByItself : Waiting α → Bool
  | forAnswer .. | forTurn _ => true
  | _ => false

def isReady (shared : Shared) : Waiting α → Bool
  | finished _ => false
  | forLock lock _ => lock ∉ shared.locked
  | _ => true

end Waiting

end SessionKeeper
