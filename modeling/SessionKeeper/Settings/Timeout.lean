import SessionKeeper.Fault.Problem
import SessionKeeper.Text.Digits

/-! # Reading a timeout

A timeout is a whole number of milliseconds above zero. It may be given as an integer of any size,
as a truth value, as a floating-point number without a fraction, or as a text.

A text is read as it stands if it is a plain numeral: digits without a superfluous zero, behind a
minus or not. Otherwise it is cleaned first: white space around it, a plus, zeros in front, a
fraction of zeros and single underscores between digits go. Zeros in front may be mixed with
underscores in any way, and a minus may stand behind them. A numeral has at most
`Text.digitLimit` digits; only a text that begins with a longer one is called too large.
-/

namespace SessionKeeper.Settings

/-! ## Plain numerals -/

/-- The plain numeral at the beginning of a text, perhaps without a digit, and what follows it. -/
structure Numeral where
  negative : Bool
  digits : List Char
  rest : List Char

namespace Numeral

/-- Split a text behind the plain numeral at its beginning. A zero in front stands alone. -/
def scan (written : List Char) : Numeral :=
  let (negative, body) := match written with
    | '-' :: rest => (true, rest)
    | _ => (false, written)
  match body with
  | '0' :: rest => ⟨negative, ['0'], rest⟩
  | _ => ⟨negative, body.takeWhile Text.isDigit, body.dropWhile Text.isDigit⟩

def isTooLong (numeral : Numeral) : Bool := numeral.digits.length > Text.digitLimit

def value? (numeral : Numeral) : Option Int :=
  if numeral.digits.isEmpty || !numeral.rest.isEmpty || numeral.isTooLong then none
  else
    some (Text.signed numeral.negative (Text.valueOfDigits (Text.digitValues numeral.digits)))

end Numeral

/-! ## Cleaning -/

/-- What is left behind zeros and underscores, the last one of which is `last`: a number that begins
with another digit or with a minus, or a fraction with the digit in front of it. -/
def withoutZeros (last : Char) : List Char → Option (List Char)
  | [] => some [last]
  | c :: rest =>
    if c == '0' || c == '_' then withoutZeros c rest
    else if Text.isDigit c || c == '-' then some (c :: rest)
    else if c == '.' then some (last :: c :: rest)
    else none

/-- A number without the zeros in front; it has to begin with a digit. -/
def withoutLeadingZeros? : List Char → Option (List Char)
  | '0' :: rest => withoutZeros '0' rest
  | c :: rest => if Text.isDigit c then some (c :: rest) else none
  | [] => none

/-- A number without its fraction; `none` if anything but zeros follows the point. -/
def wholePart? (written : List Char) : Option (List Char) :=
  match written.dropWhile (· != '.') with
  | [] => some written
  | _ :: fraction =>
    if !fraction.isEmpty && fraction.all (· == '0') then some (written.takeWhile (· != '.'))
    else none

def hasDoubledUnderscore : List Char → Bool
  | '_' :: '_' :: _ => true
  | _ :: rest => hasDoubledUnderscore rest
  | [] => false

/-- A number without underscores; `none` if one stands at an end or next to another one. -/
def ungrouped? (written : List Char) : Option (List Char) :=
  if written.head? == some '_' || written.getLast? == some '_' || hasDoubledUnderscore written
  then none
  else some (written.filter (· != '_'))

/-- The plain numeral that a text becomes when it is cleaned. -/
def cleaned? (written : List Char) : Option (List Char) :=
  let (negative, body) := Text.splitSign (Text.trimBy Text.isWhiteSpaceChar written)
  let digits := ((withoutLeadingZeros? body).bind wholePart?).bind ungrouped?
  digits.map fun digits => if negative then '-' :: digits else digits

def timeoutOfText (text : String) : Except ValueProblem Int :=
  let plain := Numeral.scan text.toList
  if plain.isTooLong then .error .tooLarge
  else
    match plain.value? with
    | some value => .ok value
    | none =>
      match (cleaned? text.toList).bind fun digits => (Numeral.scan digits).value? with
      | some value => .ok value
      | none => .error .unreadableInteger

/-! ## Values -/

/-- The bound of signed 64-bit integers, 2^63. -/
def wordBound : Int := 9223372036854775808

/-- The integer that a floating-point number is, between the bounds of 64 bits. -/
def timeoutOfReal (value : Binary64) : Except ValueProblem Int :=
  if !value.isFinite then .error .notFinite
  else
    match value.toInt? with
    | none => .error .fractional
    | some whole =>
      if -wordBound < whole ∧ whole < wordBound then .ok whole else .error .tooLarge

def integerOf : Json → Except ValueProblem Int
  | .int value => .ok value
  | .bool value => .ok (if value then 1 else 0)
  | .real value => timeoutOfReal value
  | .text value =>
    match value.toString? with
    | some text => timeoutOfText text
    | none => .error .loneSurrogate
  | _ => .error .notInteger

def readTimeout (value : Json) : Except ValueProblem Int :=
  match integerOf value with
  | .ok timeout => if timeout > 0 then .ok timeout else .error .notPositive
  | .error problem => .error problem

end SessionKeeper.Settings
