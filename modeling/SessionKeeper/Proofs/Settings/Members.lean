import SessionKeeper.Json.Basic
import SessionKeeper.Proofs.Dictionary.Entries
import SessionKeeper.Settings.Field

/-! # Members and their values

Which value a name has in a list of members, after names were given values one after the other and
after members were left out. Of members with one name the last one counts, so leaving members out
shows earlier ones of the same name unless every name stands once (`Json.memberOf?_filter`).
A field of the settings is given a value without changing those of the other fields
(`Settings.memberOf?_set_name`).
-/

namespace SessionKeeper

variable {members later : List (Text × Json)} {name other : Text} {value : Json}

namespace Json

theorem memberOf?_cons : memberOf? ((other, value) :: members) name =
    (memberOf? members name).or (if name = other then some value else none) := by
  rw [memberOf?, memberOf?, List.reverse_cons, List.lookup_append, List.lookup_cons,
    List.lookup_nil]
  by_cases same : name = other
  · simp [same]
  · have test : (name == other) = false := beq_eq_false_iff_ne.mpr same
    simp [same, test]

theorem memberOf?_append : memberOf? (members ++ later) name =
    (memberOf? later name).or (memberOf? members name) := by
  rw [memberOf?, List.reverse_append, List.lookup_append]
  rfl

theorem memberOf?_eq_none_iff :
    memberOf? members name = none ↔ ∀ member ∈ members, member.1 ≠ name := by
  rw [memberOf?, List.lookup_eq_none_iff]
  refine ⟨fun absent member known same => ?_, fun absent member known => ?_⟩
  · have different := absent member (List.mem_reverse.mpr known)
    simp [same] at different
  · simpa using Ne.symm (absent member (List.mem_reverse.mp known))

theorem mem_of_memberOf? (found : memberOf? members name = some value) :
    (name, value) ∈ members := by
  obtain ⟨_, _, split, _⟩ := List.lookup_eq_some_iff.mp found
  exact List.mem_reverse.mp (split ▸ List.mem_append_right _ List.mem_cons_self)

/-- A name that is given a value has that value, and no other name changes its own. -/
theorem memberOf?_set : memberOf? (Dictionary.set members other value) name =
    if name = other then some value else memberOf? members name := by
  unfold Dictionary.set
  split
  · rename_i known
    have replaced (list : List (Text × Json)) :
        memberOf? (list.map fun entry => if entry.1 == other then (other, value) else entry) name =
          if name = other then (if list.any (·.1 == other) then some value else none)
          else memberOf? list name := by
      induction list with
      | nil => simp [memberOf?]
      | cons entry rest ih =>
        obtain ⟨key, present⟩ := entry
        rw [List.map_cons, List.any_cons, memberOf?_cons]
        by_cases own : key = other
        · subst own
          have test : (key == key) = true := beq_self_eq_true key
          simp only [test, if_true, Bool.true_or]
          rw [memberOf?_cons, ih]
          by_cases same : name = key
          · simp only [same, if_true]
            split <;> rfl
          · simp [same]
        · have test : (key == other) = false := beq_eq_false_iff_ne.mpr own
          simp only [test, Bool.false_eq_true, if_false, Bool.false_or]
          rw [memberOf?_cons, ih]
          by_cases same : name = other
          · have different : ¬ other = key := fun equal => own equal.symm
            simp [same, different]
          · simp [same]
    rw [replaced, if_pos known]
  · rw [memberOf?_append, memberOf?_cons]
    by_cases same : name = other <;> simp [same, memberOf?]

/-- A name has its latest value. -/
theorem memberOf?_overlay : memberOf? (Dictionary.overlay members later) name =
    (memberOf? later name).or (memberOf? members name) := by
  unfold Dictionary.overlay
  induction later generalizing members with
  | nil => rfl
  | cons entry rest ih =>
    obtain ⟨key, present⟩ := entry
    rw [List.foldl_cons, ih, memberOf?_set, memberOf?_cons]
    by_cases same : name = key
    · cases memberOf? rest name <;> simp [same]
    · simp [same]

/-- A name that is given values has one of them. -/
theorem exists_memberOf?_overlay {property : Json → Prop} (given : (name, value) ∈ later)
    (all : ∀ member ∈ later, property member.2) :
    ∃ found, memberOf? (Dictionary.overlay members later) name = some found ∧ property found := by
  rw [memberOf?_overlay]
  cases latest : memberOf? later name with
  | none => exact absurd rfl (memberOf?_eq_none_iff.mp latest _ given)
  | some found => exact ⟨found, rfl, all _ (mem_of_memberOf? latest)⟩

end Json

/-- Where every name stands once, leaving members out takes their values away and no other. -/
theorem Json.memberOf?_filter (distinct : (members.map (·.1)).Nodup) (kept : Json → Bool) :
    memberOf? (members.filter fun entry => kept entry.2) name =
      (memberOf? members name).filter kept := by
  induction members with
  | nil => rfl
  | cons entry rest ih =>
    obtain ⟨key, present⟩ := entry
    obtain ⟨strange, others⟩ := List.nodup_cons.mp distinct
    have alone : name = key → memberOf? rest name = none := by
      rintro rfl
      refine memberOf?_eq_none_iff.mpr fun member known same => strange ?_
      exact List.mem_map.mpr ⟨member, known, same⟩
    rw [memberOf?_cons, List.filter_cons]
    by_cases same : name = key
    · rw [alone same, if_pos same]
      have left : memberOf? (rest.filter fun entry => kept entry.2) name = none := by
        rw [ih others, alone same]
        rfl
      rw [Option.none_or, Option.filter_some]
      split
      · rw [memberOf?_cons, left, if_pos same, Option.none_or]
      · exact left
    · rw [if_neg same, Option.or_none, ← ih others]
      split
      · rw [memberOf?_cons, if_neg same, Option.or_none]
      · rfl

/-! ## Values of fields -/

namespace Settings

variable {field given : Field}

theorem Field.mem_all (field : Field) : field ∈ Field.all := by
  cases field <;> decide

theorem Field.name_ne_self (field : Field) : (field.name : Text) ≠ "self" := by
  intro same
  have spelled := Text.ofString_inj.mp same
  cases field <;> simp [Field.name] at spelled

theorem Field.name_inj : (field.name : Text) = given.name ↔ field = given := by
  rw [Text.ofString_inj]
  cases field <;> cases given <;> simp [Field.name]

/-- A field that is given a value has that value, and no other field changes its own. -/
theorem memberOf?_set_name : Json.memberOf? (Dictionary.set members given.name value) field.name =
    if field = given then some value else Json.memberOf? members field.name := by
  simp only [Json.memberOf?_set, Field.name_inj]

theorem memberOf?_set_self : Json.memberOf? (Dictionary.set members given.name value) "self" =
    Json.memberOf? members "self" := by
  rw [Json.memberOf?_set, if_neg (Ne.symm given.name_ne_self)]

end Settings

end SessionKeeper
