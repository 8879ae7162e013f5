/-! # Dictionaries in insertion order

A dictionary is a list of names with values in which no name occurs twice. Giving a name a new value
keeps its place; a new name stands at the end.
-/

namespace SessionKeeper.Dictionary

variable {α β : Type} [BEq α]

/-- Give a name a value: in the place of its earlier one, else at the end. -/
def set (dictionary : List (α × β)) (name : α) (value : β) : List (α × β) :=
  if dictionary.any (·.1 == name) then
    dictionary.map fun entry => if entry.1 == name then (name, value) else entry
  else dictionary ++ [(name, value)]

/-- Give names values one after the other. -/
def overlay (dictionary later : List (α × β)) : List (α × β) :=
  later.foldl (fun sofar entry => set sofar entry.1 entry.2) dictionary

end SessionKeeper.Dictionary
