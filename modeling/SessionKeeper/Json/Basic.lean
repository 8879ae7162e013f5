import SessionKeeper.Binary64.Basic
import SessionKeeper.Text.Basic

/-! # JSON values

A value as its document spells it: an object keeps all its members in order, repeated names
included. Of members with one name the last one counts (`Json.member?`).
-/

namespace SessionKeeper

/-- A JSON value. A number without fraction and exponent is an integer of any size. -/
inductive Json where
  | null
  | bool (value : Bool)
  | int (value : Int)
  | real (value : Binary64)
  | text (value : Text)
  | list (items : List Json)
  | object (members : List (Text × Json))
deriving Inhabited

namespace Json

/-- The value that a list of members gives to a name: the last one counts. -/
def memberOf? (members : List (Text × Json)) (name : Text) : Option Json :=
  members.reverse.lookup name

def member? (name : Text) : Json → Option Json
  | object members => memberOf? members name
  | _ => none

mutual

/-- How deep lists and objects are nested, the value itself included. One without a content does
not count. -/
def depth : Json → Nat
  | list [] | object [] => 0
  | list (item :: rest) => max (depth item) (depthOfItems rest) + 1
  | object ((_, value) :: rest) => max (depth value) (depthOfMembers rest) + 1
  | _ => 0

def depthOfItems : List Json → Nat
  | [] => 0
  | item :: rest => max (depth item) (depthOfItems rest)

def depthOfMembers : List (Text × Json) → Nat
  | [] => 0
  | (_, value) :: rest => max (depth value) (depthOfMembers rest)

end

mutual

/-- No text in the value, and no name, holds a surrogate. -/
def isScalar : Json → Bool
  | text value => value.toString?.isSome
  | list items => areScalar items
  | object members => membersAreScalar members
  | _ => true

def areScalar : List Json → Bool
  | [] => true
  | item :: rest => isScalar item && areScalar rest

def membersAreScalar : List (Text × Json) → Bool
  | [] => true
  | (name, value) :: rest =>
    name.toString?.isSome && isScalar value && membersAreScalar rest

end

end Json

end SessionKeeper
