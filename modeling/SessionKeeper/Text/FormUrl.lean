import SessionKeeper.Text.Digits
import SessionKeeper.Text.Utf8

/-! # Form encoding

The query form of a text: the bytes of its UTF-8 form, letters, digits and `_.-~` as they are, the
space as `+`, every other byte as `%` and two hexadecimal digits.
-/

namespace SessionKeeper.FormUrl

def isUnreserved (b : UInt8) : Bool :=
  (0x30 ≤ b && b ≤ 0x39) || (0x41 ≤ b && b ≤ 0x5A) || (0x61 ≤ b && b ≤ 0x7A) ||
    b == 0x5F || b == 0x2E || b == 0x2D || b == 0x7E

/-- A hexadecimal digit in upper case. -/
def hexDigit (digit : Nat) : Char :=
  Char.ofNat (if digit < 10 then 0x30 + digit else 0x37 + digit)

def encodeByte (b : UInt8) : List Char :=
  if isUnreserved b then [Char.ofNat b.toNat]
  else if b == 0x20 then ['+']
  else ['%', hexDigit (b.toNat / 16), hexDigit (b.toNat % 16)]

/-- The form-encoded spelling of bytes. -/
def encodeBytes (bytes : List UInt8) : String :=
  String.ofList (bytes.flatMap encodeByte)

def encode (string : String) : String := encodeBytes (Utf8.encode string)

/-- The form-encoded spelling of a text, in which no surrogate may stand. -/
def encodeText (text : Text) : Except Utf8.Unencodable String :=
  (Utf8.encodeText text).map encodeBytes

/-- The bytes that a form-encoded text spells; `none` if a `%` is not followed by two hexadecimal
digits. -/
def decodeBytes : List Char → Option (List UInt8)
  | [] => some []
  | '+' :: rest => (decodeBytes rest).map (0x20 :: ·)
  | '%' :: high :: low :: rest =>
    (Text.hexValue? high).bind fun h => (Text.hexValue? low).bind fun l =>
      (decodeBytes rest).map (UInt8.ofNat (h * 16 + l) :: ·)
  | c :: rest =>
    if c == '%' then none
    else (decodeBytes rest).map (String.utf8EncodeChar c ++ ·)

def decode? (encoded : String) : Option String :=
  (decodeBytes encoded.toList).bind fun bytes => (Utf8.decode bytes).toOption

end SessionKeeper.FormUrl
