import SessionKeeper.Fault.Basic
import SessionKeeper.Log
import SessionKeeper.Settings.Environment
import SessionKeeper.Text.Case

/-! # The console

How log records are written to the terminal: a time stamp, the name of the level in its colour, and
the message, which is coloured too where it is an error. The environment chooses the least level
that is shown and may switch colours off, or on again.
-/

namespace SessionKeeper.Console

def escape (number : Nat) : String := s!"\x1b[{number}m"

/-- The escape sequence that ends a colour. -/
def reset : String := escape 0

def colours : List (String × String) :=
  [("cyan", escape 36), ("green", escape 32), ("yellow", escape 33), ("red", escape 31)]

def levelColour? (level : Level) : Option String :=
  if level = .debug then some "cyan"
  else if level = .info then some "green"
  else if level = .warning then some "yellow"
  else if level = .error then some "red"
  else if level = .critical then some "magenta"
  else none

def messageColour? (level : Level) : Option String :=
  if level = .error then some "red"
  else if level = .critical then some "magenta"
  else none

/-- The escape sequence of a colour; a colour without one is a fault. -/
def sequence (colour : Option String) : Except Fault String :=
  match colour with
  | none => .ok ""
  | some name =>
    match colours.lookup name with
    | some sequence => .ok sequence
    | none => .error (.foreign (.unknownColour name))

def padRight (width : Nat) (text : String) : String :=
  text ++ String.ofList (List.replicate (width - text.length) ' ')

structure Style where
  /-- Records below this level are not shown. -/
  threshold : Level
  coloured : Bool
deriving DecidableEq, Repr

namespace Style

def ofEnvironment (environment : Environment) : Style where
  threshold :=
    let wish := Text.lower ((environment.value? "DEBUG").getD "")
    if wish == "true" || wish == "1" || wish == "yes" then .debug else .info
  coloured :=
    (environment.value? "FORCE_COLOR").isSome || (environment.value? "NO_COLOR").isNone

/-- A line that ends with the end of a colour. -/
def closed (line : Text) : Text :=
  if line.endsWith reset then line else line ++ reset

/-- A record as a line. A colour without an escape sequence is a fault even where colours are
off. -/
def line (style : Style) (stamp : String) (record : Record) : Except Fault Text := do
  let name := padRight 8 record.level.name
  let levelColour ← sequence (levelColour? record.level)
  let messageColour ← sequence (messageColour? record.level)
  if style.coloured then
    return closed
      (s!"{stamp} {levelColour}{name}{reset} {messageColour}" ++ record.message)
  else return s!"{stamp} {name} " ++ record.message

def shown (style : Style) (log : Log) : Log :=
  log.filter fun record => record.level.severity ≥ style.threshold.severity

/-- The lines of a log, without those that no colour is known for. -/
def lines (style : Style) (stamp : String) (log : Log) : List Text :=
  (style.shown log).filterMap fun record => (style.line stamp record).toOption

end Style

end SessionKeeper.Console
