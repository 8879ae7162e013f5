/-! # Registries

A registry keeps members in the order of their registration, no two of them the same in the sense of
a given relation. Adding a member that is the same as a registered one, and removing one that is the
same as none, change nothing and say so.
-/

namespace SessionKeeper

structure Registry (α : Type) where
  members : List α := []
deriving Repr

namespace Registry

variable {α : Type} (same : α → α → Bool)

def contains (registry : Registry α) (item : α) : Bool :=
  registry.members.any (same item)

/-- Register a member at the end, unless the same is registered; and whether it was registered. -/
def add (registry : Registry α) (item : α) : Bool × Registry α :=
  if registry.contains same item then (false, registry)
  else (true, ⟨registry.members ++ [item]⟩)

/-- Remove the member that is the same as `item`; and whether there was one. -/
def remove (registry : Registry α) (item : α) : Bool × Registry α :=
  if registry.contains same item then (true, ⟨registry.members.eraseP (same item)⟩)
  else (false, registry)

def size (registry : Registry α) : Nat := registry.members.length

end Registry

end SessionKeeper
