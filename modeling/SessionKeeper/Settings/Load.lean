import SessionKeeper.Dictionary
import SessionKeeper.Fault.Reported
import SessionKeeper.Settings.Basic
import SessionKeeper.Settings.File

/-! # Loading settings

The values of a file come first, environment variables that are set and not empty stand over them.
The file is the given one or, without one, the one that a variable names.
-/

namespace SessionKeeper.Settings

def fileVariable : String := "SFAUTH_CONFIG_FILE"

/-- The configuration file: the given one, else the one that the environment names. -/
def chosenFile? (path : Option Text) (environment : Environment) : Option Text :=
  match path.filter (!·.isEmpty) with
  | some path => some path
  | none => environment.filled? fileVariable

def overrides (environment : Environment) : List (Field × Text) :=
  Field.all.filterMap fun field =>
    (environment.filled? field.variableName).map fun value => (field, value)

/-- The names of overridden fields in the order of the alphabet. -/
def showOverridden (overridden : List (Field × Text)) : String :=
  let names := (overridden.map (·.1.name)).mergeSort (fun a b => a ≤ b)
  "[" ++ ", ".intercalate (names.map fun (name : String) => Text.quote name) ++ "]"

def fileValues (files : FileReader) (path : Option Text) (environment : Environment) :
    Reported Values :=
  match chosenFile? path environment with
  | none => pure []
  | some file => do
    let values ← Reported.ofExcept (valuesOfFile files file)
    Reported.say .debug ("📁 Loaded session config file path=" ++ file)
    pure values

def overriddenValues (values : Values) (overridden : List (Field × Text)) : Values :=
  Dictionary.overlay values
    (overridden.map fun (field, value) => ((field.name : Text), Json.text value))

def load (files : FileReader) (defaults : Defaults) (path : Option Text)
    (environment : Environment) : Reported Settings := do
  let values ← fileValues files path environment
  let overridden := overrides environment
  if !overridden.isEmpty then
    Reported.say .debug
      s!"🔧 Applied environment overrides fields={showOverridden overridden}"
  Reported.ofExcept (ofGivenValues defaults (overriddenValues values overridden))

end SessionKeeper.Settings
