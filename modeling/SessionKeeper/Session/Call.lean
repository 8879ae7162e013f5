import SessionKeeper.Session.Client

/-! # Calls

Everything that a task may ask of a session, as data, with the replies. Histories and crews of tasks
are lists of calls.
-/

namespace SessionKeeper

inductive Call where
  | login (old : Option Text)
  | logout
  | start
  | stop
  | applyLogin (response : Response)
  | api (call : ApiCall) (attempts : Int)
  | enlist (listener : Text)
  | dismiss (listener : Text)
  | draftLogin
  | describe

inductive CallReply where
  | nothing
  | token (token : String)
  | response (response : Response)
  | changed (changed : Bool)
  | request (request : Request)
  | text (text : String)

namespace Session

/-- Change the registered listeners by a listener's name, and tell whether they have changed. -/
def changeListeners (name : Text) (change : Shared → Listener → Bool × Shared) :
    Routine Bool := do
  let listener ← Listener.named name
  Routine.modifyGet fun shared => change shared listener

def answer (session : Session) : Call → Routine CallReply
  | .login old => .token <$> session.login old
  | .logout => (fun _ => .nothing) <$> session.logout
  | .start => (fun _ => .nothing) <$> session.start
  | .stop => (fun _ => .nothing) <$> session.stop
  | .applyLogin response => .token <$> Session.applyLogin response
  | .api call attempts => .response <$> session.call call attempts
  | .enlist name => .changed <$> changeListeners name Shared.enlist
  | .dismiss name => .changed <$> changeListeners name Shared.dismiss
  | .draftLogin => .request <$> session.draftLogin
  | .describe => do
    let shared ← Routine.get
    return .text (session.describe shared.held)

end Session

end SessionKeeper
