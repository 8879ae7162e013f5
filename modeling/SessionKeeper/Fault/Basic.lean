import SessionKeeper.Fault.Problem

/-! # Faults

Everything that can end an operation early. The faults of this library are closed under
`Fault.isSession` and `Fault.isInternal`; whatever else is raised, by the HTTP layer, by a listener
or by the host, is an `Incident`, of which only its nature matters.
-/

namespace SessionKeeper

inductive Nature where
  | timeout
  /-- A connection was dropped, or a body cut off, during an exchange. -/
  | interrupted
  /-- Another failure of the HTTP client, reported `bySystem` or not. -/
  | client (bySystem : Bool)
  /-- A failure that the operating system reported outside the HTTP client. -/
  | system
  /-- The end of an iteration, which no computation that is waited for lets out as such. -/
  | exhausted
  /-- The end of a series of steps, which whoever makes attempts takes for the end of these. -/
  | seriesEnd
  /-- Any other failure. -/
  | ordinary
  /-- A demand to stop the task or the process, which handlers of failures let pass. -/
  | halting
deriving DecidableEq, Repr

namespace Nature

/-- The HTTP client raised it. -/
def isClient : Nature → Bool
  | interrupted | client _ => true
  | _ => false

/-- The operating system reported it; running out of time counts. -/
def isSystem : Nature → Bool
  | timeout | system => true
  | client bySystem => bySystem
  | _ => false

end Nature

/-- A failure from outside this library: the name it is logged under, its text and its nature. -/
structure Incident where
  label : String
  text : Text
  nature : Nature
  /-- What a process that the incident ends leaves as its exit code, if it is an orderly end. -/
  exitCode : Option Json := none

inductive TransportKind where
  | timeout
  | interrupted
  | failed
deriving DecidableEq, Repr

def TransportKind.name : TransportKind → String
  | timeout => "timeout"
  | interrupted => "interrupted"
  | failed => "failed"

structure TransportFailure where
  kind : TransportKind
  message : Text
  cause : Option Incident := none

/-- One error that a reply reports. -/
structure ReportedError where
  message : Text
  code : Option Text := none
deriving DecidableEq, Repr

structure Refusal where
  message : Text
  status : Int
  description : Option Text := none
  errors : List ReportedError := []
deriving DecidableEq, Repr

/-- What ends an operation early. -/
inductive Fault where
  /-- An internal fault of no closer kind. -/
  | general (statement : Statement)
  | configuration (problem : ConfigurationProblem)
  /-- A failed exchange of no closer kind. -/
  | session (statement : Statement)
  | transport (failure : TransportFailure)
  | refused (refusal : Refusal)
  | undecodable (problem : DecodeProblem)
  /-- An API request was rejected with the token it carried. -/
  | expired (token : Option Text) (status : Int)
  | foreign (incident : Incident)

namespace Fault

/-- The name under which a fault is logged. -/
def label : Fault → String
  | general _ => "InternalError"
  | configuration _ => "ConfigurationError"
  | session _ => "SessionError"
  | transport _ => "TransportError"
  | refused _ => "ProtocolError"
  | undecodable _ => "DecodeError"
  | expired .. => "SessionExpiredError"
  | foreign incident => incident.label

def message : Fault → Text
  | general statement => statement.message
  | configuration problem => problem.message
  | session statement => statement.message
  | transport failure => failure.message
  | refused refusal => refusal.message
  | undecodable problem => problem.message
  | expired _ status => s!"Session expired (status={status})"
  | foreign incident => incident.text

/-- A text or nothing, as a detail. -/
def optionalText : Option Text → Detail
  | some text => .json (.text text)
  | none => .json .null

/-- The values attached to a fault, in the order in which they are shown. -/
def details : Fault → Details
  | general statement => statement.details
  | configuration problem => problem.details
  | session statement => statement.details
  | transport failure => [("kind", .json (.text failure.kind.name))]
  | refused refusal =>
    [("status_code", .json (.int refusal.status)),
      ("description", optionalText refusal.description)]
  | undecodable problem => problem.details
  | expired _ status => [("status_code", .json (.int status))]
  | foreign _ => []

def isInternal : Fault → Bool
  | foreign _ => false
  | _ => true

def isSession : Fault → Bool
  | session _ | transport _ | refused _ | undecodable _ | expired .. => true
  | _ => false

/-- A handler of failures catches the fault: it is no demand to stop. -/
def isFailure : Fault → Bool
  | foreign incident => incident.nature != .halting
  | _ => true

def endsSeries : Fault → Bool
  | foreign incident => incident.nature == .seriesEnd
  | _ => false

def isClientOrSystem : Fault → Bool
  | foreign incident => incident.nature.isClient || incident.nature.isSystem
  | _ => false

/-- The fault as a log line names it. -/
def labelled (fault : Fault) : Text := fault.label ++ ": " ++ fault.message

end Fault

inductive Category where
  | config
  | network
  | protocol
  | parsing
  | internal
  | unknown
deriving DecidableEq, Repr

def Category.name : Category → String
  | config => "config"
  | network => "network"
  | protocol => "protocol"
  | parsing => "parsing"
  | internal => "internal"
  | unknown => "unknown"

def Fault.category : Fault → Category
  | configuration _ => .config
  | transport _ => .network
  | refused _ | expired .. => .protocol
  | undecodable _ => .parsing
  | general _ | session _ => .internal
  | foreign incident => if incident.nature.isSystem then .network else .unknown

/-! ## Incidents that this library meets or causes -/

namespace Incident

/-- An incident of no special nature. -/
def ordinary (label : String) (text : Text) : Incident := ⟨label, text, .ordinary, none⟩

/-- A file is not UTF-8. -/
def notUtf8 (fault : Utf8.Fault) : Incident := ordinary "UnicodeDecodeError" fault.message

/-- A text that has to be encoded holds surrogates. -/
def unencodable (fault : Utf8.Unencodable) : Incident :=
  ordinary "UnicodeEncodeError" fault.message

def integerTooLong (digits : Nat) : Incident :=
  ordinary "ValueError"
    (s!"Exceeds the limit ({Text.digitLimit} digits) for integer string conversion: " ++
      s!"value has {digits} digits; use sys.set_int_max_str_digits() to increase the limit")

def nestedTooDeep (kind : Json.ContainerKind) : Incident :=
  let container := match kind with
    | .list => "array"
    | .object => "object"
  ordinary "RecursionError"
    (s!"maximum recursion depth exceeded while decoding a JSON {container} " ++
      "from a unicode string")

def nullInPath : Incident := ordinary "ValueError" "embedded null byte"

/-- Settings are given a value under the name that stands for the settings themselves. -/
def reservedName : Incident :=
  ordinary "TypeError" "SessionConfig.__init__() got multiple values for argument 'self'"

/-- A timeout has too many milliseconds to be a number of seconds. -/
def timeoutOverflow : Incident :=
  ordinary "OverflowError" "integer division result too large for a float"

def missingCallback (owner method : String) : Incident :=
  ordinary "AttributeError" s!"'{owner}' object has no attribute '{method}'"

def unknownListener (name : Text) : Incident := ordinary "KeyError" (Text.quote name)

/-- The end of an iteration as it gets out of a computation that is waited for. -/
def escapedEnd : Incident := ordinary "RuntimeError" "coroutine raised StopIteration"

/-- No answer is foreseen for a request. -/
def unexpectedRequest (method url : Text) : Incident :=
  ordinary "AssertionError" ("unexpected request " ++ method ++ " " ++ url)

def noAnswerLeft : Incident := ordinary "IndexError" "list index out of range"

def keyboardInterrupt : Incident := ⟨"KeyboardInterrupt", "", .halting, some (.int 130)⟩

def cancelled : Incident := ⟨"CancelledError", "", .halting, none⟩

def unknownColour (name : String) : Incident := ordinary "KeyError" (Text.quote name)

end Incident

/-- The fault as whoever waits for a computation meets it. -/
def Fault.awaited : Fault → Fault
  | .foreign incident =>
    if incident.nature = .exhausted then .foreign .escapedEnd else .foreign incident
  | fault => fault

end SessionKeeper
