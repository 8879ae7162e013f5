import SessionKeeper.Application.Check
import SessionKeeper.Console
import SessionKeeper.Http.Wire
import Std.Time

/-! # The command line

Check the configured credentials by logging in and out again. The first argument names the
configuration file; environment variables stand over its values.

Log lines go to standard error, each with the local time. An HTTP client in another process does the
exchanges: it reads the requests from standard output and answers them on standard input, as
`SessionKeeper.Wire` spells them. The warnings about environment variables that spell no number are
printed before the first request.
-/

namespace SessionKeeper.CommandLine

def variableNames : List String :=
  Settings.Field.all.map (·.variableName) ++
    [Settings.fileVariable, Defaults.attemptsVariable, "DEBUG", "NO_COLOR", "FORCE_COLOR"]

def readEnvironment : IO Environment :=
  variableNames.filterMapM fun name => do
    return (← IO.getEnv name).map fun value => ((name : Text), (value : Text))

/-- The number of a failure, whichever sign it was reported with. -/
def plainNumber (code : UInt32) : Nat :=
  if code.toNat < 2147483648 then code.toNat else 4294967296 - code.toNat

def numberedProblem (code : UInt32) (text : String) : FileProblem :=
  match plainNumber code with
  | 2 => .missing
  | 20 => .notADirectory
  | 21 => .isADirectory
  | 36 => .nameTooLong
  | number => .other number text.capitalize

def fileProblem (error : IO.Error) : FileProblem :=
  match error with
  | .noFileOrDirectory _ code text | .interrupted _ code text => numberedProblem code text
  | .permissionDenied _ code text | .inappropriateType _ code text
  | .invalidArgument _ code text | .resourceExhausted _ code text
  | .noSuchThing _ code text | .alreadyExists _ code text => numberedProblem code text
  | .otherError code text | .resourceBusy code text | .resourceVanished code text
  | .unsupportedOperation code text | .hardwareFault code text
  | .unsatisfiedConstraints code text | .illegalOperation code text | .protocolError code text
  | .timeExpired code text => numberedProblem code text
  | .unexpectedEof => .other 5 "Input/output error"
  | .userError text => .other 5 text

/-- A reader that knows the chosen file alone. -/
def readChosenFile (path : Option Text) (environment : Environment) : IO FileReader := do
  match ((Settings.chosenFile? path environment).map Settings.plainPath).bind Text.toString? with
  | none => return fun _ => .error .missing
  | some location =>
    try
      let content ← IO.FS.readBinFile location
      return fun _ => .ok content.toList
    catch error => return fun _ => .error (fileProblem error)

def tell (style : Console.Style) (record : Record) : IO Unit := do
  let now ← Std.Time.PlainDateTime.now
  for line in style.lines (now.format "uuuu-MM-dd HH:mm:ss") [record] do
    IO.eprintln line.toPlain

def ask (request : Request) : IO Answer := do
  let output ← IO.getStdout
  output.putStrLn (Wire.requestLine request)
  output.flush
  return Wire.readAnswer (← (← IO.getStdin).getLine)

/-- Carry a routine out alone, and write log lines as they arise. -/
def perform {α : Type} (style : Console.Style) :
    Routine α → Shared → IO (Shared × Except Fault α)
  | .done outcome, shared => return (shared, outcome)
  | .look next, shared => perform style (next shared) shared
  | .update change next, shared => do
    let changed := change shared
    for record in changed.log.drop shared.log.length do
      tell style record
    perform style next changed
  | .exchange request next, shared => do
    let answer ← ask request
    perform style (next answer) (shared.send request)
  | .acquire lock next, shared => perform style (next (.ok ())) (shared.lock lock)
  | .pause next, shared => perform style (next (.ok ())) shared

/-- Leave an exit code. One that is no number is shown and stands for a failure. -/
def leave (code : Json) : IO UInt32 := do
  match code with
  | .int number => return UInt32.ofNat (number % 256).toNat
  | .bool failed => return if failed then 1 else 0
  | .null => return 0
  | message =>
    IO.eprintln message.display.toPlain
    return 1

def check (path : Option Text) : IO UInt32 := do
  let environment ← readEnvironment
  let (defaults, warnings) := Defaults.ofEnvironment environment
  for warning in warnings do
    IO.println warning.toPlain
  let files ← readChosenFile path environment
  let load := Settings.load files defaults path environment
  let style := Console.Style.ofEnvironment environment
  let (_, outcome) ← perform style (Check.routine load (.ok ())) {}
  match Check.settle outcome with
  | .ok code => leave code
  | .error fault =>
    IO.eprintln fault.labelled.toPlain
    return 1

end SessionKeeper.CommandLine

def main (arguments : List String) : IO UInt32 :=
  SessionKeeper.CommandLine.check (arguments.head?.map SessionKeeper.Text.ofString)
