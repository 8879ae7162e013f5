import SessionKeeper.Session.Draft
import SessionKeeper.Session.Exchange
import SessionKeeper.Session.Notify

/-! # Logging in and out

The transitions of the shared session, each made while the session lock is taken. `Session.login`
names the token that its caller used last: only the first of many callers with the same stale token
logs in again, the others get the fresh token without a request. A transition tells the listeners
before it gives the lock back.
-/

namespace SessionKeeper

/-- The settings that a session is for. -/
structure Session where
  settings : Settings

namespace Session

/-- A session needs an HTTP session and checked settings. -/
def create (hasTransport : Bool) (settings : Option Settings) : Except Fault Session :=
  if !hasTransport then .error (.configuration .noTransport)
  else
    match settings with
    | some settings => .ok ⟨settings⟩
    | none => .error (.configuration .noSettings)

variable (session : Session)

def logoutRefusal (response : Response) : Refusal :=
  ⟨s!"Logout error, code: [{response.status}] reason: [" ++
      Response.showReason response.reason ++ "]",
    response.status, response.reason, []⟩

def revoke (token : Text) (instanceUrl : Option Text) : Routine Unit := do
  let request ← Routine.ofExcept (session.settings.draftLogout token instanceUrl)
  let response ← request.send
  if response.status ≠ Response.okStatus then throw (.refused (logoutRefusal response))
  Routine.say .info "👋 Logout successful"

/-- Hold nothing any more, and tell the listeners. -/
def clear : Routine Unit := do
  Routine.modify (·.hold none)
  Listener.notifyAll .logout

/-- Ask for a token to be revoked; whatever comes of it, nothing is held afterwards. -/
def revokeAndClear (token : Text) (instanceUrl : Option Text) : Routine Unit :=
  (session.revoke token instanceUrl).ensuring clear

/-- Revoke the token that is to be replaced. That this fails is no more than a line of the log. -/
def revokeStale (token : Text) : Routine Unit := do
  let shared ← Routine.get
  try
    session.revokeAndClear token shared.instanceUrl?
  catch fault =>
    if fault.isSession then
      Routine.say .warning ("⚠️ Error revoking old access token: " ++ fault.labelled)
    else throw fault

/-- Hold what a response to a login grants, and tell the listeners. -/
def install (response : Response) : Routine String := do
  let grant ← Routine.ofExcept response.classifyLogin
  Routine.say .info "✅ Login successful"
  Routine.modify (·.hold (some grant.credential))
  Listener.notifyAll (.login grant.accessToken grant.instanceUrl)
  return grant.accessToken

/-- Log in anew. The login goes to the instance that was logged in to before the old token was
revoked. -/
def relogin (old : Option Text) : Routine String := do
  let shared ← Routine.get
  match old with
  | some token => session.revokeStale token
  | none => pure ()
  let request ← Routine.ofReported (session.settings.draftLogin shared.instanceUrl?)
  let response ← request.send
  install response

/-- A current token, after a login where nothing is held or just the token used last. -/
def loginLocked (old : Option Text) : Routine String := do
  let shared ← Routine.get
  match shared.token? with
  | some held =>
    if old = some ↑held then session.relogin old
    else
      Routine.say .debug "🔁 Token already refreshed by another caller"
      return held
  | none => session.relogin old

/-- Get a current token; `old` is the one that the caller used last. -/
def login (old : Option Text) : Routine String :=
  Routine.withLock .session (session.loginLocked old)

def applyLogin (response : Response) : Routine String :=
  Routine.withLock .session (install response)

def logoutLocked : Routine Unit := do
  let shared ← Routine.get
  match shared.held with
  | some credential => session.revokeAndClear credential.token (some ↑credential.instanceUrl)
  | none => pure ()

/-- Revoke the held token, if there is one, and hold nothing. -/
def logout : Routine Unit :=
  Routine.withLock .session session.logoutLocked

/-- Log in with whatever token is held, usually none. It is looked up before the lock is taken. -/
def start : Routine Unit := do
  let shared ← Routine.get
  let _ ← session.login (shared.token?.map Text.ofString)

/-- Log out for good. -/
def stop : Routine Unit := session.logout

/-- The request of a login at this moment, for someone else to send. -/
def draftLogin : Routine Request := do
  let shared ← Routine.get
  Routine.ofReported (session.settings.draftLogin shared.instanceUrl?)

/-- The printable form of a session, which leaves the token out. -/
def describe (held : Option Credential) : String :=
  s!"SessionCoordinator(user={Text.quote session.settings.username}, " ++
    s!"state={Credential.describe held})"

end Session

end SessionKeeper
