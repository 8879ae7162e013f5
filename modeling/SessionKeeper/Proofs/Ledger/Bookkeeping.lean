import SessionKeeper.Proofs.Ledger.Errors
import SessionKeeper.Task.Shared

/-! # What is written down of errors

Errors are recorded in the ledger alone or reported, which also writes them to the log, and now and
then the ledger is emptied (`ErrorStep`). Whatever the order of such steps, the ledger is that of
the errors since it was last emptied, while the log has the lines of all of them
(`Shared.afterSteps_eq`). A fault that is reported leaves one record and one entry that tell the
same (`Shared.Books`).
-/

namespace SessionKeeper

/-- What can be done about errors. -/
inductive ErrorStep where
  /-- Enter an error in the ledger, without a word in the log. -/
  | record (category message : Text) (details : Details)
  | report (notice : ErrorNotice)
  /-- Empty the ledger. -/
  | reset

namespace ErrorStep

/-- The entry that a step makes, with its category. -/
def error? : ErrorStep → Option (Text × LedgerEntry)
  | record category message details => some (category, ⟨message, details⟩)
  | report notice => some (notice.category, ⟨notice.message, notice.details⟩)
  | reset => none

/-- What a step writes to the log. -/
def records : ErrorStep → Log
  | report notice => if notice.level.isKept then [⟨notice.level, notice.line⟩] else []
  | _ => []

/-- The errors since the ledger was last emptied, the oldest first. -/
def sinceReset (steps : List ErrorStep) : List (Text × LedgerEntry) :=
  (steps.rtakeWhile (·.error?.isSome)).filterMap error?

theorem sinceReset_concat (steps : List ErrorStep) (step : ErrorStep) :
    sinceReset (steps ++ [step]) =
      match step.error? with
      | some error => sinceReset steps ++ [error]
      | none => [] := by
  unfold sinceReset
  rw [List.rtakeWhile_concat]
  cases made : step.error? with
  | none => simp
  | some error => simp [made]

end ErrorStep

namespace Shared

/-- What is shared after a step. -/
def takeStep (shared : Shared) : ErrorStep → Shared
  | .record category message details =>
    { shared with ledger := shared.ledger.record category message details }
  | .report notice => shared.reportError notice
  | .reset => { shared with ledger := {} }

def afterSteps (shared : Shared) (steps : List ErrorStep) : Shared := steps.foldl takeStep shared

variable {shared : Shared} {errors : List (Text × LedgerEntry)}

/-- A line in the log is kept or not, by its level. -/
theorem say_eq (shared : Shared) (level : Level) (message : Text) : shared.say level message =
    { shared with
      log := shared.log ++ if level.isKept then [⟨level, message⟩] else [] } := by
  unfold say Log.write
  split
  · rfl
  · rw [List.append_nil]

/-- A step writes its records, and it enters its error or empties the ledger. -/
theorem takeStep_eq (kept : shared.ledger = .ofErrors errors) (step : ErrorStep) :
    shared.takeStep step =
      { shared with
        log := shared.log ++ step.records
        ledger := .ofErrors (match step.error? with
          | some error => errors ++ [error]
          | none => []) } := by
  cases step with
  | record category message details =>
    simp only [takeStep, kept, Ledger.record_ofErrors, ErrorStep.records, ErrorStep.error?,
      List.append_nil]
  | report notice =>
    simp only [takeStep, reportError, Ledger.enter, kept, Ledger.record_ofErrors, say_eq,
      ErrorStep.records, ErrorStep.error?]
  | reset =>
    simp only [takeStep, ErrorStep.records, ErrorStep.error?, List.append_nil, Ledger.ofErrors_nil]

/-- Of all steps the log has the lines, and the ledger has the errors since it was last emptied. -/
theorem afterSteps_eq (fresh : shared.ledger = {}) (steps : List ErrorStep) :
    shared.afterSteps steps =
      { shared with
        log := shared.log ++ steps.flatMap ErrorStep.records
        ledger := .ofErrors (ErrorStep.sinceReset steps) } := by
  induction steps using List.reverseRecOn with
  | nil =>
    rw [List.flatMap_nil, List.append_nil]
    exact congrArg (fun ledger => { shared with ledger := ledger }) fresh
  | append_singleton steps step ih =>
    have last : shared.afterSteps (steps ++ [step]) = (shared.afterSteps steps).takeStep step := by
      simp [afterSteps]
    rw [last, ih, takeStep_eq rfl, ErrorStep.sinceReset_concat, List.flatMap_append,
      List.flatMap_singleton, List.append_assoc]

theorem ledger_afterSteps (fresh : shared.ledger = {}) (steps : List ErrorStep) :
    (shared.afterSteps steps).ledger = .ofErrors (ErrorStep.sinceReset steps) := by
  rw [afterSteps_eq fresh]

/-- A fault that is reported leaves one error record in the log and one entry in the ledger, under
the category of the fault, and nothing else. The record tells what the entry tells: the message with
that of the fault, and the details of the fault with the given ones over them. -/
structure Books (before : Shared) (message : Text) (fault : Fault) (details : Details)
    (entry : LedgerEntry) (after : Shared) : Prop where
  rest : after = { before with log := after.log, ledger := after.ledger }
  log : after.log = before.log ++
    [⟨.error, ErrorNotice.line
      ⟨fault.category.name, entry.message, some fault, entry.details, .error⟩⟩]
  message : entry.message = message ++ ": " ++ fault.message
  details : ∀ name,
    entry.details.lookup name = (details.lookup name).or (fault.details.lookup name)
  once : (fault.details.map (·.1)).Nodup → (entry.details.map (·.1)).Nodup
  entries : after.ledger.entries fault.category.name =
    (before.ledger.entries fault.category.name ++ [entry]).rtake Ledger.capacity
  others : ∀ category : Text, category ≠ fault.category.name →
    after.ledger.entries category = before.ledger.entries category

theorem books_report (before : Shared) (message : Text) (fault : Fault) {details : Details}
    (once : (details.map (·.1)).Nodup) :
    before.Books message fault details
      ⟨message ++ ": " ++ fault.message, Dictionary.overlay fault.details details⟩
      (before.takeStep (.report (.ofFault message fault details))) where
  rest := rfl
  log := congrArg Shared.log (before.say_eq .error _)
  message := rfl
  details _ := Dictionary.lookup_overlay once
  once distinct := Dictionary.nodup_overlay distinct
  entries := before.ledger.entries_record _ _ _
  others _ different := before.ledger.entries_record_of_ne different _ _

/-- **The log and the ledger agree, and the ledger keeps the latest errors.** Errors are reported
and the ledger is emptied in any order. Then the log has the records of all of them, and under each
category the ledger keeps the latest of those since it was last emptied, at most a thousand, in
their order. Its summary has the categories of these errors in the order of the first error of each,
with the latest one. And a fault that is reported next leaves one record and one entry that tell the
same. -/
theorem agrees_afterSteps (shared : Shared) (fresh : shared.ledger = {})
    (steps : List ErrorStep) :
    let after := shared.afterSteps steps
    let errors := ErrorStep.sinceReset steps
    after.log = shared.log ++ steps.flatMap ErrorStep.records ∧
    (∀ category, after.ledger.entries category =
      (Ledger.under category errors).rtake (min (Ledger.under category errors).length 1000)) ∧
    after.ledger.summary.map (·.category) = (errors.map (·.1)).eraseDups ∧
    (∀ category, category ∈ after.ledger.summary.map (·.category) ↔
      after.ledger.entries category ≠ []) ∧
    (∀ total ∈ after.ledger.summary,
      total.last = (Ledger.under total.category errors).getLast? ∧ total.last.isSome) ∧
    ∀ (message : Text) (fault : Fault) (details : Details), (details.map (·.1)).Nodup →
      ∃ entry, after.Books message fault details entry
        (after.takeStep (.report (.ofFault message fault details))) := by
  intro after errors
  have log : after.log = shared.log ++ steps.flatMap ErrorStep.records :=
    congrArg Shared.log (afterSteps_eq fresh steps)
  have kept : after.ledger = .ofErrors errors := ledger_afterSteps fresh steps
  have categories : after.ledger.summary.map (·.category) = Ledger.namesOf errors := by
    rw [kept, Ledger.categories_ofErrors]
  refine ⟨log, fun category => ?_, categories, fun category => ?_, fun total member => ?_,
    fun message fault details once => ⟨_, after.books_report message fault once⟩⟩
  · rw [kept, Ledger.entries_ofErrors]
    exact (Ledger.rtake_min _ Ledger.capacity).symm
  · rw [categories, kept, Ledger.mem_namesOf_iff, Ledger.entries_ofErrors, Ne, Ne,
      Ledger.rtake_capacity_eq_nil_iff]
  · rw [kept, Ledger.summary_ofErrors] at member
    obtain ⟨category, named, rfl⟩ := List.mem_map.mp member
    exact ⟨rfl, List.getLast?_isSome.mpr (Ledger.mem_namesOf_iff.mp named)⟩

/-- A fault that is reported after the ledger was emptied stands in it alone, before an error of
another category, and the next one of its category is written down as it is told. -/
theorem agrees_afterSteps_two :
    let shared : Shared := {}
    let late : Fault := .transport ⟨.timeout, "late", none⟩
    let steps : List ErrorStep := [.report (.ofFault "before" (.expired none 401)), .reset,
      .report (.ofFault "first" late), .record "config" "other" []]
    let after := shared.afterSteps steps
    shared.ledger = {} ∧
    after.ledger.summary.map (·.category) = ["network", "config"] ∧
    (after.ledger.entries "network").map (·.message) = ["first: late"] ∧
    ∃ entry, after.Books "second" late [("kind", .json .null)] entry
      (after.takeStep (.report (.ofFault "second" late [("kind", .json .null)]))) := by
  intro shared late steps after
  obtain ⟨_, entries, categories, _, _, books⟩ := shared.agrees_afterSteps rfl steps
  refine ⟨rfl, categories.trans (by decide +kernel), ?_, books _ _ _ (by decide +kernel)⟩
  rw [entries "network"]
  decide +kernel

end Shared

end SessionKeeper
