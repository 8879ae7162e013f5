import SessionKeeper.Text.Blank

/-! # Decimal digits of every script

The Unicode category `Nd` is made of blocks of ten consecutive characters, the digits zero to nine
of one script. An integer may be written with digits of any of them.
-/

namespace SessionKeeper.Text

/-- The zero of each block of ten decimal digits. -/
def decimalZeros : List Nat :=
  [0x30, 0x660, 0x6F0, 0x7C0, 0x966, 0x9E6, 0xA66, 0xAE6, 0xB66, 0xBE6, 0xC66, 0xCE6, 0xD66,
    0xDE6, 0xE50, 0xED0, 0xF20, 0x1040, 0x1090, 0x17E0, 0x1810, 0x1946, 0x19D0, 0x1A80, 0x1A90,
    0x1B50, 0x1BB0, 0x1C40, 0x1C50, 0xA620, 0xA8D0, 0xA900, 0xA9D0, 0xA9F0, 0xAA50, 0xABF0,
    0xFF10, 0x104A0, 0x10D30, 0x11066, 0x110F0, 0x11136, 0x111D0, 0x112F0, 0x11450, 0x114D0,
    0x11650, 0x116C0, 0x11730, 0x118E0, 0x11950, 0x11C50, 0x11D50, 0x11DA0, 0x16A60, 0x16AC0,
    0x16B50, 0x1D7CE, 0x1D7D8, 0x1D7E2, 0x1D7EC, 0x1D7F6, 0x1E140, 0x1E2F0, 0x1E950, 0x1FBF0]

/-- The value of a decimal digit of any script. -/
def digitValue? (c : Char) : Option Nat :=
  (decimalZeros.find? fun first => first ≤ c.toNat && c.toNat ≤ first + 9).map (c.toNat - ·)

/-- An ASCII digit. -/
def isDigit (c : Char) : Bool :=
  0x30 ≤ c.toNat && c.toNat ≤ 0x39

def digitValues (digits : List Char) : List Nat := digits.map (·.toNat - 0x30)

/-- The value of a hexadecimal digit in either case. -/
def hexValue? (c : Char) : Option Nat :=
  let n := c.toNat
  if isDigit c then some (n - 0x30)
  else if 0x41 ≤ n && n ≤ 0x46 then some (n - 0x37)
  else if 0x61 ≤ n && n ≤ 0x66 then some (n - 0x57)
  else none

/-- The number spelled by decimal digits, the most significant first. -/
def valueOfDigits (digits : List Nat) : Nat :=
  digits.foldl (fun value digit => value * 10 + digit) 0

/-- Split off a sign: whether it is a minus, and the text behind it. -/
def splitSign : List Char → Bool × List Char
  | '+' :: rest => (false, rest)
  | '-' :: rest => (true, rest)
  | text => (false, text)

/-- Read digits between which single underscores may stand; `none` unless the whole text is such a
run of at least one digit. -/
def groupedDigits? (digit? : Char → Option Nat) : List Char → Option (List Nat)
  | [] => none
  | [c] => (digit? c).map fun digit => [digit]
  | c :: '_' :: rest =>
    (digit? c).bind fun digit => (groupedDigits? digit? rest).map (digit :: ·)
  | c :: rest =>
    (digit? c).bind fun digit => (groupedDigits? digit? rest).map (digit :: ·)

/-- The most digits that a written integer may have. -/
def digitLimit : Nat := 4300

/-- The integer with a sign and a magnitude. -/
def signed (negative : Bool) (magnitude : Nat) : Int :=
  if negative then -(magnitude : Int) else magnitude

/-- Read a written integer: white space around it, an optional sign, digits of any script with
single underscores between them, and no more digits than `digitLimit`. -/
def readInt? (text : String) : Option Int :=
  let (negative, body) := splitSign (trimBy isWhiteSpaceChar text.toList)
  match groupedDigits? digitValue? body with
  | some digits =>
    if digits.length ≤ digitLimit then some (signed negative (valueOfDigits digits)) else none
  | none => none

end SessionKeeper.Text
