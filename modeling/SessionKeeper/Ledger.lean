import SessionKeeper.Dictionary
import SessionKeeper.Fault.Basic
import SessionKeeper.Log
import SessionKeeper.Text.Case

/-! # The error ledger

Errors are counted under categories. For each category the ledger keeps the most recent entries, at
most `Ledger.capacity`; the categories stand in the order of their first error. A logged error is
entered in the ledger and written to the log.
-/

namespace SessionKeeper

structure LedgerEntry where
  message : Text
  details : Details
deriving Inhabited

structure Ledger where
  categories : List (Text × List LedgerEntry) := []
deriving Inhabited

namespace Ledger

def capacity : Nat := 1000

def trimmed (entries : List LedgerEntry) : List LedgerEntry :=
  entries.drop (entries.length - capacity)

/-- The entries kept for a category, the oldest first. -/
def entries (ledger : Ledger) (category : Text) : List LedgerEntry :=
  (ledger.categories.lookup category).getD []

def record (ledger : Ledger) (category message : Text) (details : Details) : Ledger :=
  ⟨Dictionary.set ledger.categories category
    (trimmed (ledger.entries category ++ [⟨message, details⟩]))⟩

structure Total where
  category : Text
  count : Nat
  last : Option LedgerEntry

/-- The categories with an entry, in the order of their first error. -/
def summary (ledger : Ledger) : List Total :=
  ledger.categories.map fun (category, entries) => ⟨category, entries.length, entries.getLast?⟩

def totalLines (total : Total) : List (Level × Text) :=
  (Level.warning, "  " ++ total.category ++ s!": {total.count} total") ::
    match total.last with
    | some entry => [(Level.warning, "    Last: " ++ entry.message)]
    | none => []

def report (ledger : Ledger) : List (Level × Text) :=
  match ledger.summary with
  | [] => [(Level.info, "No errors recorded in current session")]
  | totals => (Level.warning, "🚨 ERROR SUMMARY REPORT") :: totals.flatMap totalLines

end Ledger

structure ErrorNotice where
  category : Text
  message : Text
  fault : Option Fault := none
  details : Details := []
  level : Level := .error

namespace ErrorNotice

def faultPart (notice : ErrorNotice) : Text :=
  match notice.fault with
  | some fault => " | Exception: " ++ fault.labelled
  | none => ""

def detailsPart (notice : ErrorNotice) : Text :=
  if notice.details.isEmpty then ""
  else
    " | Context: " ++
      Text.join " | " (notice.details.map fun (name, detail) => name ++ "=" ++ detail.display)

/-- The log line of an error: its category, its message, its fault and its details. -/
def line (notice : ErrorNotice) : Text :=
  "[" ++ Text.upper notice.category ++ "] " ++ notice.message ++ notice.faultPart ++
    notice.detailsPart

/-- The notice of a fault: its category is that of the fault, and the given details stand over those
of the fault. -/
def ofFault (message : Text) (fault : Fault) (details : Details := []) : ErrorNotice where
  category := fault.category.name
  message := message ++ ": " ++ fault.message
  fault := some fault
  details := Dictionary.overlay fault.details details

end ErrorNotice

def Ledger.enter (ledger : Ledger) (notice : ErrorNotice) : Ledger :=
  ledger.record notice.category notice.message notice.details

end SessionKeeper
