import SessionKeeper.Listener.Registry

/-! # Registries under changes

What becomes of a registry when items are added to it and removed from it, in any order. Being the
same need not be identity: any equivalence on the items that occur will do (`Registry.Equates`). No
two members of a registry ever become the same (`Registry.Proper.after`), and an item is in it if
the last change of the same that succeeded was an addition (`Registry.Proper.contains_after`). What
one more change does at any time, and what it says of itself, is collected in `Registry.Ordered`.
-/

namespace SessionKeeper.Registry

variable {α : Type}

/-- On the items that are known, being the same is an equivalence. -/
structure Equates (same : α → α → Bool) (known : α → Prop) : Prop where
  refl : ∀ item, known item → same item item = true
  symm : ∀ first second, known first → known second →
    same first second = true → same second first = true
  trans : ∀ first second third, known first → known second → known third →
    same first second = true → same second third = true → same first third = true

/-- All members are known, and no two of them are the same. -/
structure Proper (same : α → α → Bool) (known : α → Prop) (registry : Registry α) : Prop where
  known : ∀ member ∈ registry.members, known member
  distinct : registry.members.Pairwise fun first second => same first second = false

/-- What somebody asks of a registry. -/
inductive Change (α : Type) where
  | add (item : α)
  | remove (item : α)

def Change.item : Change α → α
  | add item | remove item => item

def Change.adds : Change α → Bool
  | add _ => true
  | remove _ => false

section

variable (same : α → α → Bool)

/-- Do what is asked; and whether it was possible. -/
def change (registry : Registry α) : Change α → Bool × Registry α
  | .add item => registry.add same item
  | .remove item => registry.remove same item

/-- Do one thing after the other. -/
def after (registry : Registry α) (changes : List (Change α)) : Registry α :=
  changes.foldl (fun current change => (current.change same change).2) registry

/-- The changes that turn out possible, one after the other. -/
def successes : Registry α → List (Change α) → List (Change α)
  | _, [] => []
  | registry, change :: rest =>
    let (changed, next) := registry.change same change
    if changed then change :: next.successes rest else next.successes rest

end

variable {same : α → α → Bool} {known : α → Prop} {registry : Registry α} {item other : α}

namespace Equates

variable (equates : Equates same known)

include equates

/-- Items that are the same are the same as the same items. -/
theorem congr (first : known item) (second : known other) (alike : same item other = true)
    {third : α} (last : known third) : same item third = same other third := by
  rw [Bool.eq_iff_iff]
  constructor
  · exact equates.trans other item third second first last (equates.symm _ _ first second alike)
  · exact equates.trans item other third first second last alike

theorem comm (first : known item) (second : known other) : same item other = same other item := by
  rw [Bool.eq_iff_iff]
  exact ⟨equates.symm _ _ first second, equates.symm _ _ second first⟩

end Equates

/-! ## One change -/

theorem contains_eq_false :
    registry.contains same item = false ↔
      ∀ member ∈ registry.members, same item member = false := by
  simp [contains]

theorem add_of_contains (present : registry.contains same item = true) :
    registry.add same item = (false, registry) := if_pos present

theorem add_of_absent (absent : registry.contains same item = false) :
    registry.add same item = (true, ⟨registry.members ++ [item]⟩) :=
  if_neg (Bool.eq_false_iff.mp absent)

theorem remove_of_contains (present : registry.contains same item = true) :
    registry.remove same item = (true, ⟨registry.members.eraseP (same item)⟩) := if_pos present

theorem remove_of_absent (absent : registry.contains same item = false) :
    registry.remove same item = (false, registry) :=
  if_neg (Bool.eq_false_iff.mp absent)

/-- A change that is not possible leaves everything alone. -/
theorem change_of_refused {change : Change α} (refused : (registry.change same change).1 = false) :
    (registry.change same change).2 = registry := by
  cases change with
  | add item =>
    cases present : registry.contains same item with
    | true => rw [Registry.change, add_of_contains present]
    | false => simp [Registry.change, add_of_absent present] at refused
  | remove item =>
    cases present : registry.contains same item with
    | true => simp [Registry.change, remove_of_contains present] at refused
    | false => rw [Registry.change, remove_of_absent present]

namespace Proper

variable (proper : registry.Proper same known) (equates : Equates same known)

include proper

theorem add (knows : known item) (absent : registry.contains same item = false)
    (equates : Equates same known) : (registry.add same item).2.Proper same known := by
  rw [add_of_absent absent]
  refine ⟨fun member => ?_, List.pairwise_append.mpr ⟨proper.distinct, List.pairwise_singleton _ _,
    fun member registered added single => ?_⟩⟩
  · rw [List.mem_append, List.mem_singleton]
    rintro (registered | rfl)
    · exact proper.known member registered
    · exact knows
  · rw [List.mem_singleton.mp single, equates.comm (proper.known member registered) knows]
    exact contains_eq_false.mp absent member registered

/-- The one member that is the same as an item, and the others before and behind it. -/
theorem split (equates : Equates same known) (knows : known item)
    (present : registry.contains same item = true) :
    ∃ before member behind, registry.members = before ++ member :: behind ∧
      same item member = true ∧ (∀ other ∈ before ++ behind, same item other = false) ∧
      (registry.remove same item).2.members = before ++ behind := by
  obtain ⟨first, registered, alike⟩ := List.any_eq_true.mp present
  obtain ⟨member, before, behind, others, same_member, members, erased⟩ :=
    List.exists_of_eraseP registered alike
  refine ⟨before, member, behind, members, same_member, fun other among => ?_, ?_⟩
  · rcases List.mem_append.mp among with earlier | later
    · exact Bool.eq_false_iff.mpr (others other earlier)
    · have distinct := proper.distinct
      rw [members] at distinct
      have apart := List.rel_of_pairwise_cons (List.pairwise_append.mp distinct).2.1 later
      have knows_member := proper.known member (members ▸ by simp)
      have knows_other := proper.known other (members ▸ by simp [later])
      rw [equates.congr knows knows_member same_member knows_other]
      exact apart
  · rw [remove_of_contains present]
    exact erased

theorem remove : (registry.remove same item).2.Proper same known := by
  cases present : registry.contains same item with
  | true =>
    rw [remove_of_contains present]
    exact ⟨fun member kept => proper.known member (List.mem_of_mem_eraseP kept),
      proper.distinct.sublist List.eraseP_sublist⟩
  | false =>
    rw [remove_of_absent present]
    exact proper

include equates

theorem change {change : Change α} (knows : known change.item) :
    (registry.change same change).2.Proper same known := by
  cases change with
  | remove item => exact proper.remove
  | add item =>
    cases present : registry.contains same item with
    | true =>
      rw [Registry.change, add_of_contains present]
      exact proper
    | false => exact proper.add knows present equates

/-- After a change that was possible, the item is in the registry or not as was asked, and about
items that are not the same nothing has changed. -/
theorem contains_change {change : Change α} (knows : known change.item)
    (succeeded : (registry.change same change).1 = true) (knows_item : known item) :
    (registry.change same change).2.contains same item =
      if same item change.item then change.adds else registry.contains same item := by
  cases change with
  | add added =>
    cases present : registry.contains same added with
    | true => simp [Registry.change, add_of_contains present] at succeeded
    | false =>
      rw [Registry.change, add_of_absent present, contains, List.any_append]
      cases alike : same item added <;> simp [Change.item, Change.adds, alike, contains]
  | remove removed =>
    cases present : registry.contains same removed with
    | false => simp [Registry.change, remove_of_absent present] at succeeded
    | true =>
      -- No other member is the same as the one that is removed, nor as an item that is.
      have knows_removed : known removed := knows
      obtain ⟨before, member, behind, members, same_member, others, left⟩ :=
        proper.split equates knows_removed present
      have knows_member := proper.known member (members ▸ by simp)
      have whole : registry.contains same item =
          (same item member || (before ++ behind).any (same item)) := by
        rw [contains, members]
        simp only [List.any_append, List.any_cons, Bool.or_left_comm]
      rw [Registry.change, contains, left, whole, equates.comm knows_item knows_member,
        ← equates.congr knows_removed knows_member same_member knows_item,
        equates.comm knows_removed knows_item, Change.item, Change.adds]
      cases alike : same item removed with
      | true =>
        rw [if_pos rfl, List.any_eq_false]
        intro other among
        have knows_other := proper.known other (by
          rw [members]
          exact (List.Sublist.append_left (List.sublist_cons_self member behind) before).subset
            among)
        rw [equates.congr knows_item knows_removed alike knows_other, others other among]
        exact Bool.false_ne_true
      | false => simp

end Proper

/-! ## Changes one after the other -/

theorem after_append (changes more : List (Change α)) :
    registry.after same (changes ++ more) = (registry.after same changes).after same more :=
  List.foldl_append

namespace Proper

variable (proper : registry.Proper same known) (equates : Equates same known)
  {changes : List (Change α)}

include proper equates

/-- No two members ever become the same. -/
theorem after (knows : ∀ change ∈ changes, known change.item) :
    (registry.after same changes).Proper same known := by
  induction changes generalizing registry with
  | nil => exact proper
  | cons change rest ih =>
    exact ih (proper.change equates (knows change List.mem_cons_self)) fun other member =>
      knows other (List.mem_cons_of_mem _ member)

/-- An item is in a registry if the last change of the same that succeeded was an addition; if there
was none, it is there if it was. -/
theorem contains_after (knows : ∀ change ∈ changes, known change.item) (knows_item : known item) :
    (registry.after same changes).contains same item =
      (((registry.successes same changes).filter fun change =>
          same item change.item).getLast?.map Change.adds).getD (registry.contains same item) := by
  induction changes generalizing registry with
  | nil => rfl
  | cons change rest ih =>
    have own := knows change List.mem_cons_self
    have onwards := ih (proper.change equates own) fun other member =>
      knows other (List.mem_cons_of_mem _ member)
    refine onwards.trans ?_
    cases succeeded : (registry.change same change).1 with
    | false =>
      simp only [successes, succeeded, change_of_refused succeeded, Bool.false_eq_true, if_false]
    | true =>
      rw [proper.contains_change equates own succeeded knows_item]
      cases alike : same item change.item with
      | false =>
        simp only [successes, succeeded, List.filter_cons, alike, Bool.false_eq_true, if_false,
          if_true]
      | true =>
        simp only [successes, succeeded, List.filter_cons, alike, if_true, List.getLast?_cons]
        cases (List.filter (fun change => same item change.item)
          ((registry.change same change).2.successes same rest)).getLast? <;> rfl

end Proper

/-! ## What a registry keeps to -/

/-- No two members of a registry are the same, and one more change tells whether it changes
anything. -/
structure Obeys (same : α → α → Bool) (known : α → Prop) (registry : Registry α) : Prop where
  distinct : registry.members.Pairwise fun first second => same first second = false
  /-- An item can be added if no member is the same. -/
  adds_iff : ∀ item, known item →
    ((registry.add same item).1 = true ↔ ∀ member ∈ registry.members, same item member = false)
  /-- What is added stands at the end. -/
  added : ∀ item, known item → (registry.add same item).1 = true →
    (registry.add same item).2.members = registry.members ++ [item]
  /-- An item can be removed if some member is the same. -/
  removes_iff : ∀ item, known item →
    ((registry.remove same item).1 = true ↔ ∃ member ∈ registry.members, same item member = true)
  /-- The one member that is the same is removed, and the others keep their order. -/
  removed : ∀ item, known item → (registry.remove same item).1 = true →
    ∃ before member behind, registry.members = before ++ member :: behind ∧
      same item member = true ∧ (∀ other ∈ before ++ behind, same item other = false) ∧
      (registry.remove same item).2.members = before ++ behind
  /-- What is not possible changes nothing. -/
  refused : ∀ change : Change α, known change.item → (registry.change same change).1 = false →
    (registry.change same change).2 = registry
  grows : ∀ item, known item →
    ((registry.add same item).1 = true ↔ (registry.add same item).2.size = registry.size + 1)
  shrinks : ∀ item, known item →
    ((registry.remove same item).1 = true ↔ (registry.remove same item).2.size + 1 = registry.size)
  /-- To remove what has just been added undoes it. -/
  undone : ∀ item other, known item → known other → same other item = true →
    (registry.add same item).1 = true →
      (registry.add same item).2.remove same other = (true, registry)

/-- A registry came about from another one by changes, one after the other. -/
structure Ordered (same : α → α → Bool) (known : α → Prop) (start : Registry α)
    (changes : List (Change α)) (registry : Registry α) : Prop extends
    registry.Obeys same known where
  reached : registry = start.after same changes
  /-- An item is in it if the last change of the same that succeeded was an addition; if there was
  none, it is in it if it was from the beginning. -/
  contains_iff : ∀ item, known item → (registry.contains same item =
    (((start.successes same changes).filter fun change =>
        same item change.item).getLast?.map Change.adds).getD (start.contains same item))

theorem Proper.obeys (proper : registry.Proper same known) (equates : Equates same known) :
    registry.Obeys same known where
  distinct := proper.distinct
  adds_iff item _ := by
    rw [← contains_eq_false]
    cases present : registry.contains same item with
    | true => simp [add_of_contains present]
    | false => simp [add_of_absent present]
  added item _ succeeded := by
    cases present : registry.contains same item with
    | true => simp [add_of_contains present] at succeeded
    | false => rw [add_of_absent present]
  removes_iff item _ := by
    rw [← List.any_eq_true, ← contains]
    cases present : registry.contains same item with
    | true => simp [remove_of_contains present]
    | false => simp [remove_of_absent present]
  removed item knows succeeded := by
    cases present : registry.contains same item with
    | true => exact proper.split equates knows present
    | false => simp [remove_of_absent present] at succeeded
  refused _ _ := change_of_refused
  grows item _ := by
    cases present : registry.contains same item with
    | true => simp [add_of_contains present]
    | false => simp [add_of_absent present, size]
  shrinks item knows := by
    cases present : registry.contains same item with
    | true =>
      obtain ⟨before, member, behind, members, _, _, left⟩ := proper.split equates knows present
      have shorter : (registry.remove same item).2.size + 1 = registry.size := by
        simp only [size, left, members, List.length_append, List.length_cons]
        omega
      exact iff_of_true (by rw [remove_of_contains present]) shorter
    | false => simp [remove_of_absent present]
  undone item other knows knows_other alike succeeded := by
    cases present : registry.contains same item with
    | true => simp [add_of_contains present] at succeeded
    | false =>
      have absent (member : α) (registered : member ∈ registry.members) :
          ¬ same other member = true := by
        rw [equates.congr knows_other knows alike (proper.known member registered),
          contains_eq_false.mp present member registered]
        exact Bool.false_ne_true
      rw [add_of_absent present, remove_of_contains (by simp [contains, alike]),
        List.eraseP_append_right _ absent, List.eraseP_cons_of_pos alike, List.append_nil]

/-- **Registries are ordered sets.** From any start without two members that are the same, changes
lead to a registry of which this is true as well, and whose members are those that were added last
and not removed since. -/
theorem Proper.ordered {changes : List (Change α)} (proper : registry.Proper same known)
    (equates : Equates same known) (knows : ∀ change ∈ changes, known change.item) :
    registry.Ordered same known changes (registry.after same changes) where
  toObeys := (proper.after equates knows).obeys equates
  reached := rfl
  contains_iff _ := proper.contains_after equates knows

end SessionKeeper.Registry
