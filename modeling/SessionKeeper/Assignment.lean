import SessionKeeper.Fault.Basic

/-! # Assignments to records that do not change

Settings and grants keep the values that they are built with. Whoever gives one of their names a
text is refused, also where the name is no field's. A name that begins with an underscore is outside
the record: its text is put aside. A few of these names stand for what every record is made of and
take no text either.
-/

namespace SessionKeeper

/-- What comes of giving a name of a record a text. The record stays the same in any case. -/
inductive Assignment where
  /-- The text is put aside. -/
  | aside
  | refused
  | failed (incident : Incident)

namespace Assignment

/-- A property of a record can be read, and nothing else. -/
def readOnly (kind name : String) : Incident :=
  .ordinary "AttributeError" s!"property '{name}' of '{kind}' object has no setter"

/-- What is raised for the names that stand for what a record is made of, by what records of its
kind are called. -/
def ownNames (kind : String) : List (Text × Incident) :=
  [("__class__", .ordinary "TypeError" "__class__ must be set to a class, not 'str' object"),
    ("__dict__", .ordinary "TypeError" "__dict__ must be set to a dictionary, not a 'str'"),
    ("__weakref__", .ordinary "AttributeError"
      s!"attribute '__weakref__' of '{kind}' objects is not writable"),
    ("__fields__", readOnly kind "__fields__"),
    ("__fields_set__", readOnly kind "__fields_set__")]

/-- What comes of giving a name a text, in a record whose kind is called `kind`. -/
def ofName (kind : String) (name : Text) : Assignment :=
  match (ownNames kind).lookup name with
  | some incident => failed incident
  | none => if name.startsWith "_" then aside else refused

end Assignment

end SessionKeeper
