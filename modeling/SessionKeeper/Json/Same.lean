import SessionKeeper.Json.Basic

/-! # Sameness of JSON values

Two values can be the same though they are spelled differently: numbers and truth values are
compared by the number that they are, true being one and false zero, and objects by the values of
their names, in any order. A NaN by itself is the same as nothing, not even as itself; inside a list
or an object it keeps its place, and there every NaN will do.
-/

namespace SessionKeeper.Json

/-- The quotient that a finite number or a truth value is. -/
def quotient? : Json → Option (Int × Nat)
  | int value => some (value, 1)
  | bool value => some (if value then 1 else 0, 1)
  | real (.finite negative mantissa exponent) =>
    let magnitude : Int := mantissa * Binary64.powerUp 2 exponent
    some (if negative then -magnitude else magnitude, Binary64.powerUp 2 (-exponent))
  | _ => none

/-- Values that are no lists and no objects are the same. -/
def sameScalar (first second : Json) : Bool :=
  match first, second with
  | null, null => true
  | text value, text value' => value == value'
  | real (.infinite negative), real (.infinite negative') => negative == negative'
  | _, _ =>
    match quotient? first, quotient? second with
    | some (num, den), some (num', den') => num * den' == num' * den
    | _, _ => false

def areNan : Json → Json → Bool
  | real .nan, real .nan => true
  | _, _ => false

def namesOf (members : List (Text × Json)) : List Text := (members.map (·.1)).eraseDups

mutual

def same : Json → Json → Bool
  | list items, list items' => sameItems items items'
  | object members, object members' =>
    (namesOf members).length == (namesOf members').length && sameMembers members members'
  | first, second => sameScalar first second

def sameItems : List Json → List Json → Bool
  | [], [] => true
  | item :: rest, item' :: rest' =>
    (areNan item item' || same item item') && sameItems rest rest'
  | _, _ => false

/-- Every name has the same value in `others`; of members with one name the last one counts. -/
def sameMembers : List (Text × Json) → (others : List (Text × Json)) → Bool
  | [], _ => true
  | (name, value) :: rest, others =>
    (rest.any (·.1 == name) ||
      match memberOf? others name with
      | some other => areNan value other || same value other
      | none => false) &&
    sameMembers rest others

end

end SessionKeeper.Json
