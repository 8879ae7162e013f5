/-! # Binary floating-point numbers of 64 bits

A finite number is `mantissa · 2 ^ exponent` with a mantissa below 2^53 and an exponent of at least
-1074. `Binary64.ofRatio` gives the number nearest to a quotient of natural numbers, of two equally
near ones the one with an even mantissa, and an infinity where the quotient is too large.
-/

namespace SessionKeeper

/-- A number of the binary64 format; the sign of zero is kept, the payload of a NaN is not. -/
inductive Binary64 where
  | nan
  | infinite (negative : Bool)
  | finite (negative : Bool) (mantissa : Nat) (exponent : Int)
deriving DecidableEq, Repr, Inhabited

namespace Binary64

/-- The quotient rounded to the nearest integer, a half to the even one. -/
def roundDiv (num den : Nat) : Nat :=
  let quotient := num / den
  let rest := num % den
  if 2 * rest > den || (2 * rest == den && quotient % 2 == 1) then quotient + 1 else quotient

/-- The least full mantissa, 2^52; twice as much is too large for a mantissa. -/
def leastFull : Nat := 4503599627370496

def minExponent : Int := -1074

/-- The greatest exponent of a number with a full mantissa. -/
def maxExponent : Int := 971

/-- The power of a base where the exponent is positive, else 1. -/
def powerUp (base : Nat) (exponent : Int) : Nat := Nat.pow base exponent.toNat

/-- Whether `num / den ≥ bound · 2 ^ exponent`. -/
def reaches (num den bound : Nat) (exponent : Int) : Bool :=
  num * powerUp 2 (-exponent) ≥ bound * den * powerUp 2 exponent

/-- The exponent at which a positive quotient has a full mantissa. -/
def fullExponent (num den : Nat) : Int :=
  let guess := (num.log2 : Int) - den.log2 - 52
  if reaches num den leastFull guess then guess else guess - 1

def ofRatio (negative : Bool) (num den : Nat) : Binary64 :=
  if num == 0 then finite negative 0 minExponent
  else
    let exponent := max (fullExponent num den) minExponent
    let mantissa := roundDiv (num * powerUp 2 (-exponent)) (den * powerUp 2 exponent)
    let (mantissa, exponent) :=
      if mantissa == 2 * leastFull then (leastFull, exponent + 1) else (mantissa, exponent)
    if exponent > maxExponent then infinite negative else finite negative mantissa exponent

/-- The number nearest to `digits · 10 ^ exponent`. Past the bounds where every number is zero or
too large, the power is not computed. -/
def ofDecimal (negative : Bool) (digits : Nat) (exponent : Int) : Binary64 :=
  let magnitude := (Nat.toDigits 10 digits).length + exponent
  if digits == 0 || magnitude < -400 then finite negative 0 minExponent
  else if magnitude > 400 then infinite negative
  else ofRatio negative (digits * powerUp 10 exponent) (powerUp 10 (-exponent))

/-- The value of a finite number without a fractional part. -/
def toInt? : Binary64 → Option Int
  | finite negative mantissa exponent =>
    let scaled := mantissa * powerUp 2 exponent
    let unit := powerUp 2 (-exponent)
    if scaled % unit == 0 then
      some (if negative then -(scaled / unit : Nat) else (scaled / unit : Nat))
    else none
  | _ => none

def isFinite : Binary64 → Bool
  | finite .. => true
  | _ => false

end Binary64

end SessionKeeper
