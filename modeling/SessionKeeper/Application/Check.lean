import SessionKeeper.Application.Context
import SessionKeeper.Settings.Load

/-! # The check of a configuration

The check loads the settings, logs in and out again, and ends with an exit code: 0 if the login
succeeded, 1 if a fault of this library ended it, 130 if it was interrupted from the keyboard, and
the code that a demand to exit names. Any other fault escapes.
-/

namespace SessionKeeper.Check

def loginLogger : Listener where
  name := "cli"
  kind := .hook "cli"
  onLogin := some fun occasion _ =>
    match occasion with
    | .login _ instanceUrl => [.say .info ("🏢 Session established instance_url=" ++ instanceUrl)]
    | .logout => []

def verify (load : Reported Settings) (closing : Except Fault Unit) : Routine Unit := do
  let settings ← Routine.ofReported load
  let application ← Application.create (some settings) true closing
  Routine.modify fun shared => (shared.enlist loginLogger).2
  application.inside
    (Routine.say .info s!"✅ Credentials valid for user={settings.username}")

/-- Check settings; the exit code, unless a fault escapes. -/
def routine (load : Reported Settings) (closing : Except Fault Unit) : Routine Nat := do
  try
    verify load closing
    return 0
  catch fault =>
    if fault.isInternal then
      Routine.reportError (.ofFault "Session check failed" fault)
      return 1
    else throw fault

/-- The exit code of a process that a fault ends, if the fault is a demand to stop that has one. -/
def exitCode? (fault : Fault) : Option Json :=
  match fault with
  | .foreign incident => incident.exitCode
  | _ => none

/-- An exit code, also in the place of a fault that has one; this may be any value. -/
def settle (outcome : Except Fault Nat) : Except Fault Json :=
  match outcome with
  | .ok code => .ok (.int code)
  | .error fault =>
    match exitCode? fault with
    | some code => .ok code
    | none => .error fault

/-- Carry the check out: what is shared in the end, and an exit code or the fault that escapes. -/
def run (endpoint : Endpoint) (load : Reported Settings) (closing : Except Fault Unit) :
    Shared × Except Fault Json :=
  let (shared, outcome) := (routine load closing).run endpoint {}
  (shared, settle outcome)

end SessionKeeper.Check
