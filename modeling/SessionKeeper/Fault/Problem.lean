import SessionKeeper.Json.Printer
import SessionKeeper.Json.Reader
import SessionKeeper.Settings.Field
import SessionKeeper.Text.Utf8

/-! # What can be wrong with data

Causes, each with its wording: of a value that a field does not take (`ValueProblem`), of a file
that cannot be read (`FileProblem`), of a configuration (`ConfigurationProblem`) and of the body of
a reply (`DecodeProblem`).
-/

namespace SessionKeeper

inductive ValueProblem where
  | missing
  | notText
  | loneSurrogate
  | empty
  | blank
  | emptyUrl
  | notFinite
  | fractional
  | tooLarge
  | unreadableInteger
  | notInteger
  | notPositive
deriving DecidableEq, Repr

def ValueProblem.message : ValueProblem → String
  | missing => "Field required"
  | notText => "Input should be a valid string"
  | loneSurrogate => "Input should be a valid string, unable to parse raw data as a unicode string"
  | empty => "String should have at least 1 character"
  | blank => "Value error, must not be blank"
  | emptyUrl => "Value error, login_url must not be empty"
  | notFinite => "Input should be a finite number"
  | fractional => "Input should be a valid integer, got a number with a fractional part"
  | tooLarge => "Unable to parse input string as an integer, exceeded maximum size"
  | unreadableInteger => "Input should be a valid integer, unable to parse string as an integer"
  | notInteger => "Input should be a valid integer"
  | notPositive => "Input should be greater than 0"

inductive FileProblem where
  | missing
  | notADirectory
  | isADirectory
  | nameTooLong
  | other (number : Nat) (text : String)
deriving DecidableEq, Repr

namespace FileProblem

def number : FileProblem → Nat
  | missing => 2
  | notADirectory => 20
  | isADirectory => 21
  | nameTooLong => 36
  | other number _ => number

def text : FileProblem → String
  | missing => "No such file or directory"
  | notADirectory => "Not a directory"
  | isADirectory => "Is a directory"
  | nameTooLong => "File name too long"
  | other _ text => text

def message (problem : FileProblem) (path : Text) : String :=
  s!"[Errno {problem.number}] {problem.text}: {Text.quote path}"

end FileProblem

/-- A value attached to a fault. -/
inductive Detail where
  | json (value : Json)
  /-- The places of fields, each a path of one name. -/
  | fields (list : List Settings.Field)
deriving Inhabited

def showFields (list : List Settings.Field) : String :=
  "[" ++ ", ".intercalate (list.map fun field => s!"({Text.quote field.name},)") ++ "]"

def Detail.display : Detail → Text
  | json value => value.display
  | fields list => showFields list

/-- Named values in the order in which they are shown. -/
abbrev Details := List (Text × Detail)

/-- A message and details that someone else stated. -/
structure Statement where
  message : Text
  details : Details := []
deriving Inhabited

inductive ConfigurationProblem where
  | noTransport
  | noSettings
  /-- Fields with what is wrong with them, in declaration order. -/
  | offences (list : List (Settings.Field × ValueProblem))
  /-- The file named `path` cannot be read at `location`. -/
  | unreadable (path location : Text) (problem : FileProblem)
  | malformed (path : Text) (document : List Char) (problem : Json.SyntaxProblem)
      (position : Nat)
  | notAnObject (path : Text)
  | stated (statement : Statement)

namespace ConfigurationProblem

def describeOffences (list : List (Settings.Field × ValueProblem)) : String :=
  ", ".intercalate (list.map fun (field, problem) => s!"{field.name} ({problem.message})")

def message : ConfigurationProblem → Text
  | noTransport => "http_session cannot be None"
  | noSettings => "config must be a SessionConfig"
  | offences list => s!"Invalid session configuration: {describeOffences list}"
  | unreadable path location problem =>
    "Cannot read config file " ++ path ++ ": " ++ problem.message location
  | malformed path document problem position =>
    "Invalid JSON in config file " ++ path ++ ": " ++
      Json.syntaxMessage document problem position
  | notAnObject path => "Config file " ++ path ++ " must contain a JSON object"
  | stated statement => statement.message

def details : ConfigurationProblem → Details
  | offences list => [("fields", .fields (list.map (·.1)))]
  | stated statement => statement.details
  | _ => []

end ConfigurationProblem

def Utf8.Fault.message (fault : Utf8.Fault) : String :=
  let reason := match fault.reason with
    | .invalidStart => "invalid start byte"
    | .invalidContinuation => "invalid continuation byte"
    | .unexpectedEnd => "unexpected end of data"
  if fault.length == 1 then
    let byte := String.ofList (Text.hexDigits 2 fault.byte.toNat)
    s!"'utf-8' codec can't decode byte 0x{byte} in position {fault.position}: {reason}"
  else
    let last := fault.position + fault.length - 1
    s!"'utf-8' codec can't decode bytes in position {fault.position}-{last}: {reason}"

/-- Name what stands at a place of a text: one code point by its number, several by the places of
the first and the last. -/
def Text.showPlace (single : Option Nat) (first last : Int) : String :=
  match single with
  | some number =>
    s!"character '{String.ofList (Text.numericEscape number)}' in position {first}"
  | none => s!"characters in position {first}-{last}"

def Utf8.Unencodable.message (fault : Utf8.Unencodable) : String :=
  let single := if fault.length == 1 then some (0xD800 + fault.offset.val) else none
  let place := Text.showPlace single fault.position (fault.position + fault.length - 1)
  s!"'utf-8' codec can't encode {place}: surrogates not allowed"

inductive DecodeProblem where
  | notUtf8 (fault : Utf8.Fault)
  /-- The body is a text that holds a surrogate. -/
  | loneSurrogate
  | notJson
  | notAnObject
  /-- The first offending member, in declaration order. -/
  | member (name : String) (problem : ValueProblem)
  | stated (statement : Statement)

/-- What is wrong with a body, unless somebody else says it. -/
def DecodeProblem.reason : DecodeProblem → String
  | notUtf8 fault => fault.message
  | loneSurrogate => ValueProblem.loneSurrogate.message
  | notJson => "Invalid JSON"
  | notAnObject => "Input should be an object"
  | member name problem => s!"{name} {problem.message}"
  | stated _ => ""

def DecodeProblem.message : DecodeProblem → Text
  | stated statement => statement.message
  | problem => s!"Login error: response parse exception: {problem.reason}"

def DecodeProblem.details : DecodeProblem → Details
  | stated statement => statement.details
  | _ => []

end SessionKeeper
