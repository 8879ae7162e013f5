import SessionKeeper.Binary64.Basic

/-! # The shortest decimal form of a binary64 number

A number is written with the fewest digits that read back as the number, and of these with the
digits nearest to it. Numbers from 0.0001 up to, but not including, 10^16 are written positionally
with at least one digit behind the point, all others with an exponent of a sign and at least two
digits.
-/

namespace SessionKeeper.Binary64

/-- Digits and a power of ten: the number `digits · 10 ^ exponent`. -/
structure Decimal where
  digits : Nat
  exponent : Int

/-- Compare `decimal` with `quarters · 2 ^ (exponent - 2)`. -/
def Decimal.compare (decimal : Decimal) (quarters : Nat) (exponent : Int) : Ordering :=
  Ord.compare
    (decimal.digits * powerUp 10 decimal.exponent * powerUp 2 (2 - exponent))
    (quarters * powerUp 10 (-decimal.exponent) * powerUp 2 (exponent - 2))

/-- Does the decimal read back as `mantissa · 2 ^ exponent`? It does when it lies between the
midpoints to the two neighbours; the midpoints themselves belong to an even mantissa. -/
def Decimal.readsBack (decimal : Decimal) (mantissa : Nat) (exponent : Int) : Bool :=
  let below :=
    if mantissa == leastFull && exponent > minExponent then 4 * mantissa - 1 else 4 * mantissa - 2
  let fromBelow := decimal.compare below exponent
  let fromAbove := decimal.compare (4 * mantissa + 2) exponent
  if mantissa % 2 == 0 then fromBelow != .lt && fromAbove != .gt
  else fromBelow == .gt && fromAbove == .lt

/-- The power of ten of the leading digit of a positive number. -/
def leadingPower (mantissa : Nat) (exponent : Int) : Int :=
  let guess := (((mantissa.log2 : Int) + exponent) * 30103).fdiv 100000
  let reached := [guess + 2, guess + 1, guess].find? fun power =>
    (Decimal.mk 1 power).compare (4 * mantissa) exponent != .gt
  reached.getD (guess - 1)

/-- The two decimals of `count` digits next to a number: at or below it, and above it. -/
def neighbours (count : Nat) (mantissa : Nat) (exponent : Int) : Decimal × Decimal :=
  let place := leadingPower mantissa exponent - count + 1
  let digits := mantissa * powerUp 2 exponent * powerUp 10 (-place) /
    (powerUp 2 (-exponent) * powerUp 10 place)
  (⟨digits, place⟩, ⟨digits + 1, place⟩)

/-- The nearer of the two decimals next to a number, a tie going to the even digit. -/
def nearer (lower upper : Decimal) (mantissa : Nat) (exponent : Int) : Decimal :=
  let middle : Decimal := ⟨lower.digits * 10 + 5, lower.exponent - 1⟩
  match middle.compare (4 * mantissa) exponent with
  | .gt => lower
  | .lt => upper
  | .eq => if lower.digits % 2 == 0 then lower else upper

/-- The shortest decimal that reads back as a positive number, and the nearest of those. -/
def shortest (mantissa : Nat) (exponent : Int) : Decimal :=
  let tried := (List.range 17).findSome? fun fewer =>
    let (lower, upper) := neighbours (fewer + 1) mantissa exponent
    match lower.readsBack mantissa exponent, upper.readsBack mantissa exponent with
    | true, true => some (nearer lower upper mantissa exponent)
    | true, false => some lower
    | false, true => some upper
    | false, false => none
  tried.getD (neighbours 17 mantissa exponent).1

/-- Write digits of which `point` stand before the decimal point. -/
def layOut (digits : List Char) (point : Int) : List Char :=
  if -4 < point && point ≤ 16 then
    if point ≤ 0 then '0' :: '.' :: List.replicate (-point).toNat '0' ++ digits
    else
      let whole := digits.take point.toNat
      let fraction := digits.drop point.toNat
      whole ++ List.replicate (point.toNat - whole.length) '0' ++ '.' ::
        (if fraction.isEmpty then ['0'] else fraction)
  else
    let power := point - 1
    let written := Nat.toDigits 10 power.natAbs
    digits.take 1 ++ (if digits.length > 1 then '.' :: digits.drop 1 else []) ++
      'e' :: (if power < 0 then '-' else '+') :: List.replicate (2 - written.length) '0' ++ written

def toText : Binary64 → String
  | nan => "nan"
  | infinite negative => if negative then "-inf" else "inf"
  | finite negative mantissa exponent =>
    let body :=
      if mantissa == 0 then ['0', '.', '0']
      else
        let decimal := shortest mantissa exponent
        let written := Nat.toDigits 10 decimal.digits
        let kept := (written.reverse.dropWhile (· == '0')).reverse
        layOut kept (written.length + decimal.exponent)
    String.ofList (if negative then '-' :: body else body)

end SessionKeeper.Binary64
