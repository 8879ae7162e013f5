import Mathlib.Data.List.Nodup
import SessionKeeper.Dictionary

/-! # The entries of a dictionary

What a dictionary holds after names were given values. Giving a name a value leaves the entries
under all other names as they are and where they are (`Dictionary.filter_ne_set`), and where no name
stood twice the name has the one entry that it was given (`Dictionary.filter_eq_set`). Of two
dictionaries laid over each other the later one decides about every name that it knows
(`Dictionary.lookup_overlay`). A dictionary can also be given by its names and a function
(`Dictionary.set_map`).
-/

namespace SessionKeeper.Dictionary

variable {α β : Type} [BEq α] [LawfulBEq α] {dictionary later : List (α × β)} {name other : α}
  {value : β}

theorem any_fst_iff : dictionary.any (·.1 == name) = true ↔ name ∈ dictionary.map (·.1) := by
  rw [List.any_eq_true, List.mem_map]
  exact exists_congr fun entry => and_congr_right fun _ => beq_iff_eq

/-- A new name stands behind the others; otherwise the names stay. -/
theorem map_fst_set : (set dictionary name value).map (·.1) =
    if dictionary.any (·.1 == name) then dictionary.map (·.1)
    else dictionary.map (·.1) ++ [name] := by
  unfold set
  split
  · rw [List.map_map]
    refine List.map_congr_left fun entry _ => ?_
    simp only [Function.comp_apply]
    split
    · rename_i own
      exact (eq_of_beq own).symm
    · rfl
  · rw [List.map_append, List.map_singleton]

/-- Giving a name a value keeps every name standing once. -/
theorem nodup_set (distinct : (dictionary.map (·.1)).Nodup) :
    ((set dictionary name value).map (·.1)).Nodup := by
  rw [map_fst_set]
  split
  · exact distinct
  · rename_i unknown
    refine List.nodup_append.mpr ⟨distinct, List.nodup_singleton name, ?_⟩
    rintro key known last member rfl
    exact unknown (any_fst_iff.mpr (List.mem_singleton.mp member ▸ known))

theorem nodup_overlay (distinct : (dictionary.map (·.1)).Nodup) :
    ((overlay dictionary later).map (·.1)).Nodup := by
  unfold overlay
  induction later generalizing dictionary with
  | nil => exact distinct
  | cons entry rest ih => exact ih (nodup_set distinct)

/-- Replacing an entry by another one of the same name changes no test of names. -/
theorem test_replaced (test : α → Bool) (name : α) (value : β) (entry : α × β) :
    test (if entry.1 == name then (name, value) else entry).1 = test entry.1 := by
  split
  · rename_i own
    rw [eq_of_beq own]
  · rfl

/-- The entries under other names stay as they are, in their order. -/
theorem filter_ne_set (dictionary : List (α × β)) (name : α) (value : β) :
    (set dictionary name value).filter (·.1 != name) = dictionary.filter (·.1 != name) := by
  unfold set
  split
  · rw [List.filter_map]
    simp only [Function.comp_def, test_replaced (· != name)]
    refine (List.map_congr_left fun entry kept => ?_).trans (List.map_id _)
    have foreign : (entry.1 == name) = false := by simpa using (List.mem_filter.mp kept).2
    rw [foreign, if_neg Bool.false_ne_true, id]
  · simp

theorem filter_eq_nil (absent : name ∉ dictionary.map (·.1)) :
    dictionary.filter (·.1 == name) = [] := by
  refine List.filter_eq_nil_iff.mpr fun entry member own => absent ?_
  exact List.mem_map.mpr ⟨entry, member, eq_of_beq own⟩

/-- Where no name stood twice, the name has one entry, which is the one that it was given. -/
theorem filter_eq_set (distinct : (dictionary.map (·.1)).Nodup) :
    (set dictionary name value).filter (·.1 == name) = [(name, value)] := by
  unfold set
  split
  · rename_i known
    obtain ⟨⟨key, old⟩, member, own⟩ := List.any_eq_true.mp known
    obtain rfl : key = name := eq_of_beq own
    obtain ⟨before, behind, rfl⟩ := List.append_of_mem member
    -- No other entry has the name, neither in front nor behind.
    rw [List.map_append, List.map_cons, List.nodup_middle, List.nodup_cons, List.mem_append,
      not_or] at distinct
    obtain ⟨⟨front, back⟩, _⟩ := distinct
    rw [List.filter_map]
    simp only [Function.comp_def, test_replaced (· == key)]
    rw [List.filter_append, List.filter_cons, filter_eq_nil front, filter_eq_nil back]
    simp
  · rename_i unknown
    rw [List.filter_append, filter_eq_nil (mt any_fst_iff.mpr unknown)]
    simp

/-- A value under another name is not changed. -/
theorem lookup_set_of_ne (different : other ≠ name) :
    (set dictionary name value).lookup other = dictionary.lookup other := by
  have kept (entries : List (α × β)) :
      (entries.filter (·.1 != name)).lookup other = entries.lookup other := by
    induction entries with
    | nil => rfl
    | cons entry rest ih =>
      obtain ⟨key, old⟩ := entry
      by_cases own : key = name
      · subst own
        have elsewhere : (other == key) = false := beq_eq_false_iff_ne.mpr different
        rw [List.filter_cons_of_neg (by simp), List.lookup_cons, elsewhere]
        exact ih
      · rw [List.filter_cons_of_pos (by simpa using own), List.lookup_cons, List.lookup_cons, ih]
  rw [← kept, filter_ne_set, kept]

/-- A name that has been given a value has that value. -/
theorem lookup_set (dictionary : List (α × β)) (name : α) (value : β) :
    (set dictionary name value).lookup name = some value := by
  unfold set
  induction dictionary with
  | nil => simp
  | cons entry rest ih =>
    obtain ⟨key, other⟩ := entry
    by_cases same : key == name
    · simp [same]
    · have different : (name == key) = false := by
        rw [Bool.beq_comm]
        simpa using same
      have elsewhere : ((key, other) :: rest).any (·.1 == name) = rest.any (·.1 == name) := by
        simp [same]
      by_cases known : rest.any (·.1 == name)
      · rw [if_pos known] at ih
        rw [if_pos (elsewhere.trans known), List.map_cons, if_neg same, List.lookup_cons, different]
        exact ih
      · rw [if_neg known] at ih
        rw [if_neg (elsewhere ▸ known), List.cons_append, List.lookup_cons, different]
        exact ih

/-- Where the later dictionary names nothing twice, its values count and else the earlier ones. -/
theorem lookup_overlay (distinct : (later.map (·.1)).Nodup) :
    (overlay dictionary later).lookup name = (later.lookup name).or (dictionary.lookup name) := by
  unfold overlay
  induction later generalizing dictionary with
  | nil => rfl
  | cons entry rest ih =>
    obtain ⟨key, given⟩ := entry
    obtain ⟨strange, others⟩ := List.nodup_cons.mp distinct
    rw [List.foldl_cons, ih others, List.lookup_cons]
    by_cases same : name = key
    · subst same
      have last : rest.lookup name = none := by
        refine List.lookup_eq_none_iff.mpr fun member known => ?_
        exact bne_iff_ne.mpr fun equal =>
          strange (List.mem_map.mpr ⟨member, known, equal.symm⟩)
      rw [last, lookup_set, beq_self_eq_true]
      rfl
    · have elsewhere : (name == key) = false := beq_eq_false_iff_ne.mpr same
      rw [lookup_set_of_ne same, elsewhere]

/-! ## Values by a function -/

variable [DecidableEq α]

theorem lookup_map (names : List α) (values : α → β) :
    (names.map fun name => (name, values name)).lookup other =
      if other ∈ names then some (values other) else none := by
  induction names with
  | nil => rfl
  | cons name rest ih =>
    rw [List.map_cons, List.lookup_cons]
    by_cases same : other = name
    · simp [same]
    · have elsewhere : (other == name) = false := beq_eq_false_iff_ne.mpr same
      simp [same, elsewhere, ih]

/-- Giving a name a value changes the function there, and adds the name if it is new. -/
theorem set_map (names : List α) (values : α → β) :
    set (names.map fun name => (name, values name)) other value =
      (if other ∈ names then names else names ++ [other]).map fun name =>
        (name, if name = other then value else values name) := by
  have known : (names.map fun name => (name, values name)).any (·.1 == other) = true ↔
      other ∈ names := by
    rw [any_fst_iff, List.map_map]
    simp [Function.comp_def]
  unfold set
  by_cases present : other ∈ names
  · rw [if_pos (known.mpr present), if_pos present, List.map_map]
    refine List.map_congr_left fun name _ => ?_
    by_cases same : name = other <;> simp [same]
  · rw [if_neg (mt known.mp present), if_neg present, List.map_append, List.map_singleton,
      if_pos rfl]
    refine congrArg (· ++ [(other, value)]) (List.map_congr_left fun name member => ?_)
    have different : name ≠ other := fun same => present (same ▸ member)
    rw [if_neg different]

end SessionKeeper.Dictionary
