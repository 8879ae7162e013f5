import Mathlib.Data.List.DropRight
import SessionKeeper.Ledger
import SessionKeeper.Proofs.Dictionary.Entries

/-! # The ledger of a list of errors

What a ledger is once errors were recorded in it, said of the list of the errors alone
(`Ledger.ofErrors`): their categories, each where it occurs first, with the latest errors under
each. Recording one more error makes it the ledger of the longer list (`Ledger.record_ofErrors`), so
the ledger is that of all errors that were ever recorded, although it keeps no more than
`Ledger.capacity` of them under each category.
-/

namespace SessionKeeper.Ledger

variable {errors : List (Text × LedgerEntry)} {category other : Text} {entry : LedgerEntry}

theorem trimmed_eq (entries : List LedgerEntry) : trimmed entries = entries.rtake capacity := rfl

/-- A recorded error is the last one under its category, where no more are kept than the
capacity. -/
theorem entries_record (ledger : Ledger) (category message : Text) (details : Details) :
    (ledger.record category message details).entries category =
      (ledger.entries category ++ [LedgerEntry.mk message details]).rtake capacity := by
  unfold record
  rw [entries, Dictionary.lookup_set, Option.getD_some, trimmed_eq]

/-- Under other categories nothing changes. -/
theorem entries_record_of_ne (ledger : Ledger) (different : other ≠ category) (message : Text)
    (details : Details) :
    (ledger.record category message details).entries other = ledger.entries other := by
  unfold record
  rw [entries, Dictionary.lookup_set_of_ne different, entries]

/-! ## The ledger that a list of errors makes -/

/-- The errors under a category, the oldest first. -/
def under (category : Text) (errors : List (Text × LedgerEntry)) : List LedgerEntry :=
  (errors.filter (·.1 == category)).map (·.2)

/-- The categories of errors, in the order of their first error. -/
def namesOf (errors : List (Text × LedgerEntry)) : List Text := (errors.map (·.1)).eraseDups

/-- The ledger of errors that were recorded one after the other. -/
def ofErrors (errors : List (Text × LedgerEntry)) : Ledger :=
  ⟨(namesOf errors).map fun category => (category, (under category errors).rtake capacity)⟩

@[simp]
theorem ofErrors_nil : ofErrors [] = {} := rfl

theorem mem_namesOf_iff : category ∈ namesOf errors ↔ under category errors ≠ [] := by
  rw [namesOf, List.mem_eraseDups, under, Ne, List.map_eq_nil_iff, List.filter_eq_nil_iff]
  simp

theorem namesOf_concat (errors : List (Text × LedgerEntry)) (category : Text)
    (entry : LedgerEntry) : namesOf (errors ++ [(category, entry)]) =
      if category ∈ namesOf errors then namesOf errors else namesOf errors ++ [category] := by
  have known : category ∈ namesOf errors ↔ category ∈ errors.map (·.1) := List.mem_eraseDups
  have parts : namesOf (errors ++ [(category, entry)]) =
      namesOf errors ++ ([category].removeAll (errors.map (·.1))).eraseDups := by
    rw [namesOf, List.map_append, List.eraseDups_append]
    rfl
  rw [parts]
  by_cases present : category ∈ namesOf errors
  · simp [if_pos present, List.removeAll, known.mp present]
  · simp [if_neg present, List.removeAll, mt known.mpr present, List.eraseDups_cons]

theorem under_concat : under category (errors ++ [(other, entry)]) =
    if category = other then under category errors ++ [entry] else under category errors := by
  unfold under
  by_cases same : category = other
  · simp [same]
  · simp [same, Ne.symm same]

/-- Of a list that is cut short from the front before it goes on, the same end is left. -/
theorem rtake_rtake_append {α : Type} (earlier later : List α) (count : Nat) :
    (earlier.rtake count ++ later).rtake count = (earlier ++ later).rtake count := by
  simp only [List.rtake_eq_reverse_take_reverse, List.reverse_append, List.reverse_reverse,
    List.take_append, List.take_take]
  congr 3
  omega

/-- More than there is cannot be taken. -/
theorem rtake_min {α : Type} (list : List α) (count : Nat) :
    list.rtake (min list.length count) = list.rtake count := by
  unfold List.rtake
  congr 1
  omega

theorem capacity_pos : 0 < capacity := by decide

theorem rtake_capacity_eq_nil_iff {entries : List LedgerEntry} :
    entries.rtake capacity = [] ↔ entries = [] := by
  have positive := capacity_pos
  rw [List.rtake, List.drop_eq_nil_iff, ← List.length_eq_zero_iff]
  omega

/-- Under each category the ledger keeps the latest errors. -/
theorem entries_ofErrors : (ofErrors errors).entries category =
    (under category errors).rtake capacity := by
  unfold entries ofErrors
  rw [Dictionary.lookup_map]
  split
  · rw [Option.getD_some]
  · rename_i unknown
    have empty : under category errors = [] := by
      simpa using mt mem_namesOf_iff.mpr unknown
    rw [empty, List.rtake_nil, Option.getD_none]

/-- For each category, in the order of their first error, the ledger tells how many errors it keeps
and which one is the latest. -/
theorem summary_ofErrors : (ofErrors errors).summary = (namesOf errors).map fun category =>
    ⟨category, min (under category errors).length capacity, (under category errors).getLast?⟩ := by
  unfold summary ofErrors
  rw [List.map_map]
  refine List.map_congr_left fun category member => ?_
  have filled : 0 < (under category errors).length :=
    List.length_pos_iff.mpr (mem_namesOf_iff.mp member)
  have positive := capacity_pos
  have kept : (under category errors).length - ((under category errors).length - capacity) =
      min (under category errors).length capacity := by omega
  have last : ¬ (under category errors).length ≤ (under category errors).length - capacity := by
    omega
  simp only [Function.comp_apply, List.rtake, List.length_drop, List.getLast?_drop, kept,
    if_neg last]

theorem categories_ofErrors : (ofErrors errors).summary.map (·.category) = namesOf errors := by
  rw [summary_ofErrors, List.map_map]
  exact List.map_id _

/-- One more error makes the ledger that of one more error. -/
theorem record_ofErrors (message : Text) (details : Details) :
    (ofErrors errors).record category message details =
      ofErrors (errors ++ [(category, ⟨message, details⟩)]) := by
  unfold record
  rw [entries_ofErrors, trimmed_eq, rtake_rtake_append]
  unfold ofErrors
  rw [Dictionary.set_map, ← namesOf_concat errors category ⟨message, details⟩]
  refine congrArg Ledger.mk (List.map_congr_left fun name _ => ?_)
  rw [under_concat]
  split
  · rename_i same
    rw [same]
  · rfl

end SessionKeeper.Ledger
