import SessionKeeper.Fault.Basic
import SessionKeeper.Log

/-! # Reported outcomes

The outcome of a computation that only writes log lines: the lines, and a value or a fault.
-/

namespace SessionKeeper

/-- Log lines in their order, and what came of it. -/
structure Reported (α : Type) where
  lines : List (Level × Text) := []
  outcome : Except Fault α

namespace Reported

variable {α β : Type}

def pure (value : α) : Reported α := ⟨[], .ok value⟩

def bind (first : Reported α) (next : α → Reported β) : Reported β :=
  match first.outcome with
  | .ok value =>
    let second := next value
    ⟨first.lines ++ second.lines, second.outcome⟩
  | .error fault => ⟨first.lines, .error fault⟩

instance : Monad Reported where
  pure := pure
  bind := bind

def say (level : Level) (message : Text) : Reported Unit := ⟨[(level, message)], .ok ()⟩

/-- An outcome without a line. -/
def ofExcept (outcome : Except Fault α) : Reported α := ⟨[], outcome⟩

def log (reported : Reported α) : Log :=
  reported.lines.foldl (fun log line => log.write line.1 line.2) []

end Reported

end SessionKeeper
