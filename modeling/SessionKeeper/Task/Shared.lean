import SessionKeeper.Credential.Basic
import SessionKeeper.Http.Endpoint
import SessionKeeper.Ledger
import SessionKeeper.Listener.Basic

/-! # What tasks share

All tasks of one process share one session: the credential that is held, the registered listeners
and the locks that are taken. They also share what the process leaves behind: requests, log lines,
recorded errors, and what listeners were told and noted.
-/

namespace SessionKeeper

/-- What a task can have for itself. -/
inductive Lock where
  /-- The right to change what is held. -/
  | session
  /-- The right to start and to shut down. -/
  | lifecycle
deriving DecidableEq, Repr

def Lock.all : List Lock := [.session, .lifecycle]

structure Shared where
  /-- What is held while logged in. -/
  held : Option Credential := none
  listeners : Registry Listener := {}
  /-- Every listener that others may name. -/
  roster : List Listener := []
  locked : List Lock := []
  /-- The process has been started and not shut down since. -/
  started : Bool := false
  /-- There is an HTTP session. -/
  connected : Bool := false
  /-- How many HTTP sessions were opened. -/
  openings : Nat := 0
  /-- How often an HTTP session was told to close. -/
  closings : Nat := 0
  sent : List Request := []
  log : Log := []
  ledger : Ledger := {}
  notices : List Notice := []
  notes : List Note := []

namespace Shared

def token? (shared : Shared) : Option String := shared.held.map (·.token)

/-- The address of the instance that is logged in to. -/
def instanceUrl? (shared : Shared) : Option Text := shared.held.map (·.instanceUrl)

def listener? (shared : Shared) (name : Text) : Option Listener :=
  shared.roster.find? (·.name == name)

def send (shared : Shared) (request : Request) : Shared :=
  { shared with sent := shared.sent ++ [request] }

def say (shared : Shared) (level : Level) (message : Text) : Shared :=
  { shared with log := shared.log.write level message }

def lock (shared : Shared) (lock : Lock) : Shared :=
  { shared with locked := lock :: shared.locked }

def unlock (shared : Shared) (lock : Lock) : Shared :=
  { shared with locked := shared.locked.erase lock }

def hold (shared : Shared) (held : Option Credential) : Shared := { shared with held := held }

def tell (shared : Shared) (notice : Notice) : Shared :=
  { shared with notices := shared.notices ++ [notice] }

def note (shared : Shared) (listener : Text) (occasion : Occasion) : Shared :=
  { shared with notes := shared.notes ++ [⟨listener, occasion, shared.token?⟩] }

/-- Register a listener; and whether it was registered. -/
def enlist (shared : Shared) (listener : Listener) : Bool × Shared :=
  let (added, listeners) := shared.listeners.add Listener.same listener
  (added, { shared with listeners := listeners })

/-- Unregister a listener; and whether it was unregistered. -/
def dismiss (shared : Shared) (listener : Listener) : Bool × Shared :=
  let (removed, listeners) := shared.listeners.remove Listener.same listener
  (removed, { shared with listeners := listeners })

def reportError (shared : Shared) (notice : ErrorNotice) : Shared :=
  { shared.say notice.level notice.line with ledger := shared.ledger.enter notice }

end Shared

end SessionKeeper
