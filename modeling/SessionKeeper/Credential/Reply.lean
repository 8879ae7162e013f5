import SessionKeeper.Fault.Basic
import SessionKeeper.Http.Message
import SessionKeeper.Settings.Basic

/-! # Replies of the token endpoint

A reply grants a credential, refuses it or makes no sense. A grant is a JSON object with a token and
the address of the instance it is for, both not empty; a refusal is an object with an error code.
Other members have no influence.
-/

namespace SessionKeeper

structure Grant where
  accessToken : String
  instanceUrl : String
  identity : Option String
  tokenType : Option String
  issuedAt : Option String
  signature : Option String
deriving DecidableEq, Repr

def Grant.kindName : String := "LoginToken"

structure LoginRefusal where
  code : String
  description : String
deriving DecidableEq, Repr

namespace Reply

/-- A text, possibly empty. -/
def readAnyText : Json → Except ValueProblem String
  | .text value =>
    match value.toString? with
    | some text => .ok text
    | none => .error .loneSurrogate
  | _ => .error .notText

/-- A member that must be there. -/
def required {α : Type} (body : Json) (name : String) (reader : Json → Except ValueProblem α) :
    Except DecodeProblem α :=
  match body.member? name with
  | none => .error (.member name .missing)
  | some value => (reader value).mapError (.member name)

/-- A text that may be absent or null. -/
def optionalText (body : Json) (name : String) : Except DecodeProblem (Option String) :=
  match body.member? name with
  | none | some .null => .ok none
  | some value => ((readAnyText value).mapError (.member name)).map some

/-- The characters of a body. -/
def content : Body → Except DecodeProblem String
  | .text text =>
    match text.toString? with
    | some string => .ok string
    | none => .error .loneSurrogate
  | .bytes bytes => (Utf8.decode bytes).mapError .notUtf8

def readObject (body : Body) : Except DecodeProblem Json := do
  match Json.readStrict? (← content body) with
  | none => throw .notJson
  | some (.object members) => return .object members
  | some _ => throw .notAnObject

end Reply

def Grant.ofBody (body : Body) : Except DecodeProblem Grant := do
  let object ← Reply.readObject body
  let accessToken ← Reply.required object "access_token" Settings.readText
  let instanceUrl ← Reply.required object "instance_url" Settings.readText
  let identity ← Reply.optionalText object "id"
  let tokenType ← Reply.optionalText object "token_type"
  let issuedAt ← Reply.optionalText object "issued_at"
  let signature ← Reply.optionalText object "signature"
  return ⟨accessToken, instanceUrl, identity, tokenType, issuedAt, signature⟩

def LoginRefusal.ofBody (body : Body) : Except DecodeProblem LoginRefusal := do
  let object ← Reply.readObject body
  let code ← Reply.required object "error" Reply.readAnyText
  let description ←
    match object.member? "error_description" with
    | none => pure ""
    | some _ => Reply.required object "error_description" Reply.readAnyText
  return ⟨code, description⟩

namespace Response

def showReason (reason : Option Text) : Text := reason.getD "None"

/-- The refusal of a login that names its reasons. -/
def namedRefusal (refusal : LoginRefusal) : Refusal :=
  let message := s!"Login error code:[{refusal.code}] description:[{refusal.description}]"
  ⟨message, badRequestStatus, some ↑refusal.description, [⟨message, some ↑refusal.code⟩]⟩

/-- The refusal of a login by its status alone. -/
def bareRefusal (status : Int) (reason : Option Text) : Refusal :=
  ⟨s!"Login error status:[{status}] reason:[" ++ showReason reason ++ "]", status, reason, []⟩

def classifyLogin (response : Response) : Except Fault Grant :=
  if response.status = okStatus then (Grant.ofBody response.body).mapError .undecodable
  else if response.status = badRequestStatus then
    match LoginRefusal.ofBody response.body with
    | .ok refusal => .error (.refused (namedRefusal refusal))
    | .error problem => .error (.undecodable problem)
  else .error (.refused (bareRefusal response.status response.reason))

end Response

end SessionKeeper
