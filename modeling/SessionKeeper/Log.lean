import SessionKeeper.Text.Basic

/-! # Log records

A record has a level and a text. Levels are numbers, five of which have names; records below
`Level.debug` are dropped.
-/

namespace SessionKeeper

/-- How severe a record is. -/
structure Level where
  severity : Int
deriving DecidableEq, Repr, Inhabited

namespace Level

def debug : Level := ⟨10⟩
def info : Level := ⟨20⟩
def warning : Level := ⟨30⟩
def error : Level := ⟨40⟩
def critical : Level := ⟨50⟩

def name (level : Level) : String :=
  if level = debug then "DEBUG"
  else if level = info then "INFO"
  else if level = warning then "WARNING"
  else if level = error then "ERROR"
  else if level = critical then "CRITICAL"
  else if level.severity = 0 then "NOTSET"
  else s!"Level {level.severity}"

/-- Records of this level are kept. -/
def isKept (level : Level) : Bool := level.severity ≥ debug.severity

end Level

structure Record where
  level : Level
  message : Text
deriving DecidableEq, Repr, Inhabited

/-- Records in the order in which they were written. -/
abbrev Log := List Record

/-- The log with one more record, unless its level is below those that are kept. -/
def Log.write (log : Log) (level : Level) (message : Text) : Log :=
  if level.isKept then log ++ [⟨level, message⟩] else log

end SessionKeeper
