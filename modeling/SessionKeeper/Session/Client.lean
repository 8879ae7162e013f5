import SessionKeeper.Dictionary
import SessionKeeper.Session.Coordinator

/-! # Requests with the token of the session

A client sends requests to the API with the token that is held. A token that is rejected is stale:
the client asks the session for a current one and sends the request again, up to a number of
attempts.
-/

namespace SessionKeeper

structure ApiCall where
  method : Text
  /-- A path of the instance, or an absolute address. -/
  path : Text
  form : Option (List (Text × Text)) := none
  headers : Option (List (Text × Text)) := none
deriving DecidableEq, Repr

namespace ApiCall

/-- The path is an absolute address. -/
def isAbsolute (call : ApiCall) : Bool :=
  call.path.startsWith "http://" || call.path.startsWith "https://"

/-- The address that a call goes to: its path behind `base`, with a slash between them. -/
def address (call : ApiCall) (base : Text) : Text :=
  if call.isAbsolute then call.path
  else if call.path.startsWith "/" then base ++ call.path
  else base ++ "/" ++ call.path

/-- The headers of a call, with the token under the one name that it is sent by. -/
def headersWith (call : ApiCall) (token : String) : List (Text × Text) :=
  Dictionary.set (call.headers.getD []) "Authorization" (s!"Bearer {token}" : String)

/-- The request that a call is sent by. -/
def request (call : ApiCall) (base : Text) (token : String) (timeout : Binary64) : Request :=
  ⟨Text.upper call.method, call.address base, timeout, call.form, some (call.headersWith token),
    "API"⟩

end ApiCall

inductive Verdict where
  | accepted (response : Response)
  | rejected (token : String) (status : Int)

def Fault.isExpired : Fault → Bool
  | expired .. => true
  | _ => false

/-- What a fault of an attempt is to the caller. The end of a series ends the attempts as if the
token that was stale before had been rejected once more. -/
def Fault.ofAttempt (stale : Option String) (fault : Fault) : Fault :=
  if fault.endsSeries then .expired (stale.map Text.ofString) Response.unauthorizedStatus
  else fault

namespace Session

variable (session : Session)

/-- The token for the next attempt: a fresh one in the place of a stale one, else the one that is
held, else that of a login. -/
def tokenFor (stale : Option String) : Routine String :=
  match stale with
  | some token => do
    Routine.say .info "🔄 Session expired, logging in again"
    session.login (some ↑token)
  | none => do
    let shared ← Routine.get
    match shared.token? with
    | some token => pure token
    | none => session.login none

def tryCall (call : ApiCall) (stale : Option String) : Routine Verdict := do
  let token ← session.tokenFor stale
  let shared ← Routine.get
  let timeout ← Routine.ofExcept session.settings.timeout
  let request := call.request (session.settings.baseUrl shared.instanceUrl?) token timeout
  let response ← request.send
  if response.status = Response.unauthorizedStatus then return .rejected token response.status
  else return .accepted response

/-- Send a call until it is not rejected, at most once more than `retries`. -/
def callFrom (call : ApiCall) (retries : Nat) (stale : Option String) : Routine Response :=
  match retries with
  | 0 => do
    match ← (session.tryCall call stale).attempt with
    | .ok (.accepted response) => return response
    | .ok (.rejected token status) => throw (.expired (some ↑token) status)
    | .error fault => throw (fault.ofAttempt stale)
  | retries + 1 => do
    match ← (session.tryCall call stale).attempt with
    | .ok (.accepted response) => return response
    | .ok (.rejected token _) =>
      Routine.yieldTurn
      callFrom call retries (some token)
    | .error fault =>
      if fault.isExpired then
        Routine.yieldTurn
        callFrom call retries stale
      else throw (fault.ofAttempt stale)

/-- Send a call with at most `attempts` attempts, and with one at least. -/
def call (call : ApiCall) (attempts : Int) : Routine Response :=
  session.callFrom call (attempts - 1).toNat none

end Session

end SessionKeeper
