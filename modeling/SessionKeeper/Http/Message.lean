import SessionKeeper.Binary64.Decimal
import SessionKeeper.Text.Quoted
import SessionKeeper.Text.Utf8

/-! # Requests and responses

A request that can be sent over any HTTP session, and a completed exchange. The printable form of a
request leaves its headers out, since they hold a token.
-/

namespace SessionKeeper

structure Request where
  method : Text
  /-- The absolute address with its query. -/
  url : Text
  /-- The seconds after which the exchange has failed. -/
  timeout : Binary64
  form : Option (List (Text × Text)) := none
  headers : Option (List (Text × Text)) := none
  /-- What the request is called in error messages. -/
  operation : Text := "Login"
deriving DecidableEq, Repr, Inhabited

/-- The body of a response: bytes from the network, or a text. -/
inductive Body where
  | text (content : Text)
  | bytes (content : List UInt8)
deriving DecidableEq, Repr

def Body.encode : Body → Except Utf8.Unencodable (List UInt8)
  | text content => Utf8.encodeText content
  | bytes content => .ok content

structure Response where
  status : Int
  reason : Option Text
  body : Body
deriving DecidableEq, Repr

namespace Response

def okStatus : Int := 200

/-- The status of a reply that says what was wrong with the request. -/
def badRequestStatus : Int := 400

def unauthorizedStatus : Int := 401

end Response

namespace Request

def showForm : Option (List (Text × Text)) → String
  | none => "None"
  | some fields =>
    let shown := fields.map fun (name, value) => s!"{Text.quote name}: {Text.quote value}"
    "\x7b" ++ ", ".intercalate shown ++ "\x7d"

/-- The printable form of a request, with its timeout as `timeout` shows it. -/
def describe (request : Request) (timeout : String) : String :=
  s!"HttpRequest(method={Text.quote request.method}, url={Text.quote request.url}, " ++
    s!"timeout={timeout}, data={showForm request.form}, " ++
    s!"operation={Text.quote request.operation})"

/-- The value of a header, its name taken as it is written. -/
def header? (request : Request) (name : Text) : Option Text :=
  request.headers.bind (·.lookup name)

end Request

end SessionKeeper
