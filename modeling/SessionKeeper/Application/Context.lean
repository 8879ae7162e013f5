import SessionKeeper.Session.Coordinator

/-! # The application

An application owns an HTTP session and, as a rule, a session of this library. Starting it logs in,
once; shutting it down logs out, closes the HTTP session and reports the errors of its lifetime, in
this order. A logout that fails as exchanges do is one of these errors.
-/

namespace SessionKeeper

structure Application where
  session : Option Session
  /-- What closing the HTTP session comes to, unless the wait for it is broken off. -/
  closing : Except Fault Unit := .ok ()

namespace Application

/-- Create an application for settings, on an HTTP session that is given or opened. -/
def create (settings : Option Settings) (opens : Bool) (closing : Except Fault Unit) :
    Routine Application := do
  Routine.say .debug "🧪 Creating application context"
  Routine.modify fun shared =>
    { shared with
      connected := true
      openings := if opens then shared.openings + 1 else shared.openings }
  Routine.say .debug "🔗 HTTP session created"
  let session ← Routine.ofExcept (Session.create true settings)
  return ⟨some session, closing⟩

variable (application : Application)

def start : Routine Unit := Routine.withLock .lifecycle do
  let shared ← Routine.get
  if !shared.started then
    match application.session with
    | some session => session.start
    | none => pure ()
    Routine.modify ({ · with started := true })
    Routine.say .debug "🚀 Application context started"

/-- Log out. That this fails is an error of the lifetime, unless the failure is none of an
exchange. -/
def stopSession : Routine Unit :=
  match application.session with
  | none => pure ()
  | some session => do
    try
      session.stop
    catch fault =>
      if fault.isSession then
        Routine.reportError (.ofFault "Error during logout at shutdown" fault)
      else throw fault

/-- Wait until an HTTP session that was told to close has done so. Others may go on meanwhile, and
the wait may be broken off. A turn that comes at once stands for a session that need not be waited
for. -/
def waitClosed : Routine Unit := do
  try
    Routine.yieldTurn
    Routine.ofExcept application.closing
  catch raised =>
    let fault := raised.awaited
    if fault.isClientOrSystem then
      Routine.say .error ("💥 Error closing HTTP session: " ++ fault.message)
    else throw fault

def close : Routine Unit := do
  Routine.modify fun shared => { shared with closings := shared.closings + 1 }
  application.waitClosed

/-- Close the HTTP session, if there is one; afterwards there is none. -/
def disconnect : Routine Unit := do
  let shared ← Routine.get
  if shared.connected then
    application.close.ensuring (Routine.modify ({ · with connected := false }))

def reportErrors : Routine Unit := Routine.modify fun shared =>
  shared.ledger.report.foldl (fun shared line => shared.say line.1 line.2) shared

/-- Log out, close the HTTP session and report the errors of the lifetime. -/
def shutdown : Routine Unit := Routine.withLock .lifecycle do
  Routine.say .info "🔻 Application context shutdown initiated"
  application.stopSession
  application.disconnect
  Routine.modify ({ · with started := false })
  Routine.say .info "✅ Application context shutdown complete"
  reportErrors

/-- Do something between start and shutdown. A start that fails is followed by the shutdown too. -/
def inside {α : Type} (body : Routine α) : Routine α := do
  try
    application.start
  catch fault =>
    application.shutdown
    throw fault
  body.ensuring application.shutdown

end Application

end SessionKeeper
