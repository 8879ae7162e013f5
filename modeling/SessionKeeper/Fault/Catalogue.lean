import SessionKeeper.Fault.Basic
import SessionKeeper.Json.Same

/-! # Known incidents

The names under which an HTTP client, its event loop and its host are known to raise failures, with
the nature of each. An incident is built from its name and its arguments, from which its text
follows: a single argument is the text, a number and a text make up a failure of the operating
system, and several other arguments are shown together.
-/

namespace SessionKeeper.Incident

def natures : List (String × Nature) :=
  [("TimeoutError", .timeout), ("ServerTimeoutError", .timeout),
    ("ConnectionTimeoutError", .timeout), ("SocketTimeoutError", .timeout),
    ("ServerDisconnectedError", .interrupted), ("ClientPayloadError", .interrupted),
    ("ClientError", .client false), ("ClientConnectionError", .client false),
    ("ServerConnectionError", .client false), ("ServerFingerprintMismatch", .client false),
    ("InvalidURL", .client false), ("InvalidUrlClientError", .client false),
    ("RedirectClientError", .client false), ("NonHttpUrlClientError", .client false),
    ("InvalidUrlRedirectClientError", .client false),
    ("NonHttpUrlRedirectClientError", .client false), ("UploadAbortedError", .client false),
    ("ClientResponseError", .client false), ("ContentTypeError", .client false),
    ("ClientHttpProxyError", .client false), ("TooManyRedirects", .client false),
    ("WSServerHandshakeError", .client false),
    ("ClientOSError", .client true), ("ClientConnectionResetError", .client true),
    ("ClientConnectorError", .client true), ("ClientConnectorDNSError", .client true),
    ("ClientProxyConnectionError", .client true), ("ClientSSLError", .client true),
    ("ClientConnectorSSLError", .client true), ("ClientConnectorCertificateError", .client true),
    ("UnixClientConnectorError", .client true),
    ("OSError", .system), ("BlockingIOError", .system), ("ChildProcessError", .system),
    ("ConnectionError", .system), ("BrokenPipeError", .system),
    ("ConnectionAbortedError", .system), ("ConnectionRefusedError", .system),
    ("ConnectionResetError", .system), ("FileExistsError", .system),
    ("FileNotFoundError", .system), ("InterruptedError", .system),
    ("IsADirectoryError", .system), ("NotADirectoryError", .system),
    ("PermissionError", .system), ("ProcessLookupError", .system),
    ("StopIteration", .exhausted), ("StopAsyncIteration", .seriesEnd),
    ("CancelledError", .halting), ("KeyboardInterrupt", .halting), ("SystemExit", .halting),
    ("GeneratorExit", .halting), ("BaseException", .halting)]

def natureOf (name : String) : Nature := (natures.lookup name).getD .ordinary

/-- The name in the place of an older one. -/
def currentName (name : String) : String :=
  if name == "IOError" || name == "EnvironmentError" then "OSError" else name

/-- The closer name of a failure of the operating system, by its number. -/
def systemNames : List (Int × String) :=
  [(1, "PermissionError"), (2, "FileNotFoundError"), (3, "ProcessLookupError"),
    (4, "InterruptedError"), (10, "ChildProcessError"), (11, "BlockingIOError"),
    (13, "PermissionError"), (17, "FileExistsError"), (20, "NotADirectoryError"),
    (21, "IsADirectoryError"), (32, "BrokenPipeError"), (103, "ConnectionAbortedError"),
    (104, "ConnectionResetError"), (108, "BrokenPipeError"), (110, "TimeoutError"),
    (111, "ConnectionRefusedError"), (114, "BlockingIOError"), (115, "BlockingIOError")]

/-- The integer that a value is; true counts as one, false as zero. -/
def integer? : Json → Option Int
  | .int value => some value
  | .bool value => some (if value then 1 else 0)
  | _ => none

/-- A failure of the operating system is described by two to five arguments: a number, a text, the
name of a file, one argument without meaning and the name of a second file. -/
structure SystemFailure where
  number : Json
  text : Json
  file : Json
  secondFile : Json

def SystemFailure.ofArguments? : List Json → Option SystemFailure
  | [number, text] => some ⟨number, text, .null, .null⟩
  | [number, text, file] | [number, text, file, _] => some ⟨number, text, file, .null⟩
  | [number, text, file, _, secondFile] => some ⟨number, text, file, secondFile⟩
  | _ => none

/-- The name that counts: a general failure of the operating system with a known number has a closer
one. -/
def closerName (name : String) (arguments : List Json) : String :=
  match name, SystemFailure.ofArguments? arguments with
  | "OSError", some failure =>
    ((integer? failure.number).bind (systemNames.lookup ·)).getD name
  | _, _ => name

/-- Arguments as a text where no closer rule holds. -/
def plainText : List Json → Text
  | [] => ""
  | [argument] => argument.display
  | arguments => "(" ++ ", ".intercalate (arguments.map Json.showQuoted) ++ ")"

/-- The files that a failure names. A number in the place of the first one is how much was written
before the failure, where writing could not go on. -/
def showFiles (name : String) (failure : SystemFailure) : Text :=
  match failure.file, failure.secondFile with
  | .null, _ => ""
  | file, second =>
    if name == "BlockingIOError" && file.quotient?.isSome then ""
    else
      match second with
      | .null => ": " ++ file.showQuoted
      | second => ": " ++ file.showQuoted ++ " -> " ++ second.showQuoted

def systemText (name : String) (arguments : List Json) : Text :=
  match SystemFailure.ofArguments? arguments with
  | some failure =>
    "[Errno " ++ failure.number.display ++ "] " ++ failure.text.display ++ showFiles name failure
  | none => plainText arguments

/-- A value that says nothing: null, false, zero, or without a content. -/
def isVoid (value : Json) : Bool :=
  match value with
  | .null | .list [] | .object [] => true
  | .text text => text.isEmpty
  | _ => value.same (.int 0)

/-- The text of an address that makes no sense, with a description that may be missing. -/
def addressText : List Json → Text
  | [url, description] =>
    if isVoid description then url.display else url.display ++ " - " ++ description.display
  | arguments => plainText arguments

/-- The incidents whose arguments are an address and a description. -/
def addressNames : List String :=
  ["InvalidURL", "InvalidUrlClientError", "InvalidUrlRedirectClientError"]

/-- The incidents that tell of a misspelled source text. -/
def syntaxNames : List String := ["SyntaxError", "IndentationError", "TabError"]

/-- The incidents that tell of a text that cannot be encoded. -/
def unencodableNames : List String := ["UnicodeEncodeError", "UnicodeTranslateError"]

def fileName (path : Text) : Text :=
  ⟨(path.points.reverse.takeWhile (· != .scalar '/')).reverse⟩

/-- Where a source text is misspelled: a file, a line, or both. -/
def sourcePlace : List Json → Text
  | .text file :: .int line :: _ => " (" ++ fileName file ++ ", line " ++ toString line ++ ")"
  | .text file :: _ => " (" ++ fileName file ++ ")"
  | _ :: .int line :: _ => " (line " ++ toString line ++ ")"
  | _ => ""

/-- The text about a misspelled source text. A text in the place of a list is taken apart. -/
def sourceText : List Json → Text
  | [] => Json.null.display
  | [message, .list place] => message.display ++ sourcePlace place
  | [message, .text place] =>
    message.display ++ sourcePlace (place.points.map fun point => .text ⟨[point]⟩)
  | message :: _ => message.display

/-- Name what stands between two places of a text. -/
def showSpan (text : Text) (first behind : Int) : String :=
  let single := if behind == first + 1 then text.points[first.toNat]? else none
  Text.showPlace (single.map (·.toNat)) first (behind - 1)

/-- The text about a part of a text that cannot be encoded, or translated: its arguments are the
encoding, the whole text, where the part begins, where it has ended, and the reason. -/
def unencodableText (name : String) (arguments : List Json) : Text :=
  let described := match name, arguments with
    | "UnicodeEncodeError", [.text encoding, .text whole, first, behind, .text reason] =>
      some ("'" ++ encoding ++ "' codec can't encode ", whole, first, behind, reason)
    | "UnicodeTranslateError", [.text whole, first, behind, .text reason] =>
      some (("can't translate " : Text), whole, first, behind, reason)
    | _, _ => none
  match described with
  | some (verb, whole, first, behind, reason) =>
    verb ++ showSpan whole ((integer? first).getD 0) ((integer? behind).getD 0) ++ ": " ++ reason
  | none => plainText arguments

def textOf (name : String) (arguments : List Json) : Text :=
  match name, arguments with
  | "KeyError", [key] => key.showQuoted
  | "WebSocketError", [_, message] => message.display
  | "ServerDisconnectedError", [] | "ServerDisconnectedError", [.null] => "Server disconnected"
  | _, _ =>
    if addressNames.contains name then addressText arguments
    else if syntaxNames.contains name then sourceText arguments
    else if unencodableNames.contains name then unencodableText name arguments
    else if (natureOf name).isSystem then systemText name arguments
    else plainText arguments

/-- What a process leaves as its exit code when an incident ends it: an interruption from the
keyboard a fixed number, a demand to exit its argument. -/
def exitCodeOf? (name : String) (arguments : List Json) : Option Json :=
  match name, arguments with
  | "KeyboardInterrupt", _ => keyboardInterrupt.exitCode
  | "SystemExit", [] => some .null
  | "SystemExit", [code] => some code
  | "SystemExit", codes => some (.list codes)
  | _, _ => none

/-- The incident with a name and arguments. The name may stand behind those of modules. -/
def named (name : String) (arguments : List Json) : Incident :=
  let plain := currentName (((name.splitOn ".").getLast?).getD name)
  let name := closerName plain arguments
  ⟨name, textOf name arguments, natureOf name, exitCodeOf? name arguments⟩

end SessionKeeper.Incident
