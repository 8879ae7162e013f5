import SessionKeeper.Settings.Field
import SessionKeeper.Text.Basic
import SessionKeeper.Text.Digits

/-! # The environment of the process

Environment variables, and the numbers that they may set. A variable that is set but spells no
integer is reported by a line of text, and the number keeps its default.
-/

namespace SessionKeeper

abbrev Environment := List (Text × Text)

namespace Environment

def value? (environment : Environment) (name : Text) : Option Text := environment.lookup name

/-- The value of a variable that is set and not empty. -/
def filled? (environment : Environment) (name : Text) : Option Text :=
  (environment.value? name).filter (!·.isEmpty)

/-- The integer that a variable spells, or a default; and the lines that are printed on the way. -/
def readInt (environment : Environment) (name : Text) (default : Int) : Int × List Text :=
  match environment.value? name with
  | none => (default, [])
  | some value =>
    match value.toString?.bind Text.readInt? with
    | some number => (number, [])
    | none =>
      (default,
        ["Warning: Invalid integer value for " ++ name ++ "='" ++ value ++
          s!"', using default {default}"])

end Environment

/-- The numbers that the environment of the process sets. -/
structure Defaults where
  /-- The timeout of settings that name none, in milliseconds. -/
  timeout : Int := 60000
  /-- How often an API request is sent before its rejection is final. -/
  attempts : Int := 2
deriving DecidableEq, Repr

namespace Defaults

def attemptsVariable : String := "SFAUTH_AUTH_RETRY_MAX_ATTEMPTS"

/-- The numbers that an environment sets, and the lines that are printed on the way. -/
def ofEnvironment (environment : Environment) : Defaults × List Text :=
  let plain : Defaults := {}
  let (timeout, first) := environment.readInt Settings.Field.timeout.variableName plain.timeout
  let (attempts, second) := environment.readInt attemptsVariable plain.attempts
  (⟨timeout, attempts⟩, first ++ second)

end Defaults

end SessionKeeper
