import SessionKeeper.Fault.Catalogue
import SessionKeeper.Http.Endpoint
import SessionKeeper.Json.Printer
import SessionKeeper.Json.Reader

/-! # Exchanges in lines

How a request is handed to an HTTP client that runs in another process, and its answer handed back:
one JSON object a line. An answer is a response, with its body as text or as hexadecimal digits, or
the incident that ended the exchange. A line that spells neither counts as a dropped connection.
-/

namespace SessionKeeper.Wire

def namedTexts : Option (List (Text × Text)) → Json
  | some entries => .object (entries.map fun (name, value) => (name, .text value))
  | none => .null

def object (members : List (String × Json)) : Json :=
  .object (members.map fun (name, value) => (.ofString name, value))

def requestMembers (request : Request) : List (String × Json) :=
  [("method", .text request.method), ("url", .text request.url),
    ("data", namedTexts request.form), ("headers", namedTexts request.headers),
    ("timeout", .real request.timeout)]

/-- The line that stands for a request. -/
def requestLine (request : Request) : String := (object (requestMembers request)).print

def text? : Json → Option Text
  | .text value => some value
  | _ => none

def textMember? (value : Json) (name : Text) : Option Text := (value.member? name).bind text?

/-- The value of a code point that is a hexadecimal digit, else 0. -/
def digitOf (point : CodePoint) : Nat := (point.scalar?.bind Text.hexValue?).getD 0

def bytesOfHex : List CodePoint → List UInt8
  | high :: low :: rest => UInt8.ofNat (digitOf high * 16 + digitOf low) :: bytesOfHex rest
  | _ => []

/-- The body of a response: bytes before a text, and the empty text where there is neither. -/
def readBody (value : Json) : Body :=
  match textMember? value "body_hex" with
  | some digits => .bytes (bytesOfHex digits.points)
  | none => .text ((textMember? value "body").getD "")

/-- The response that a value stands for. Its body passes through the network, which a text with a
surrogate cannot. -/
def readResponse (value : Json) : Answer :=
  let status := match value.member? "status" with
    | some (.int status) => status
    | _ => Response.okStatus
  match (readBody value).encode with
  | .ok body => .ok ⟨status, textMember? value "reason", .bytes body⟩
  | .error fault => .error (.foreign (.unencodable fault))

/-- The arguments of an incident. -/
def readArguments (value : Json) : List Json :=
  match value.member? "arguments" with
  | some (.list arguments) => arguments
  | _ => []

/-- The answer for which there is no line, or none that makes sense. -/
def noAnswer : Answer := .error (.foreign (.named "ServerDisconnectedError" []))

def readAnswer (line : String) : Answer :=
  match Json.read line.toList with
  | .ok value =>
    match textMember? value "incident", value.member? "status" with
    | some name, _ => .error (.foreign (.named name.toPlain (readArguments value)))
    | none, some _ => readResponse value
    | none, none => noAnswer
  | .error _ => noAnswer

end SessionKeeper.Wire
