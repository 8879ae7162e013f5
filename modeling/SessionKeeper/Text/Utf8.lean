import SessionKeeper.Text.Basic

/-! # UTF-8

Bytes to text and back. A reader that fails names the first fault: where it is, how many bytes it
covers, and why. A lead byte fixes how many bytes follow it and what the first of these may be, so
that overlong forms, surrogates and numbers past U+10FFFF fail at their lead byte. A writer fails at
a lone surrogate, unless this stands for a byte that the host could not read as UTF-8.
-/

namespace SessionKeeper.Utf8

/-- Why bytes are no UTF-8. -/
inductive Reason where
  | invalidStart
  | invalidContinuation
  | unexpectedEnd
deriving DecidableEq, Repr

/-- The first fault of a byte sequence: `length` bytes from `position`, beginning with `byte`. -/
structure Fault where
  position : Nat
  length : Nat
  byte : UInt8
  reason : Reason
deriving DecidableEq, Repr

/-- What a lead byte promises: `count` bytes after it, the first of them between `low` and `high`,
and the bits that it holds itself. -/
structure Lead where
  count : Nat
  low : UInt8
  high : UInt8
  bits : Nat

def Lead.ofByte? (b : UInt8) : Option Lead :=
  if b < 0x80 then some ⟨0, 0x80, 0xBF, b.toNat⟩
  else if b < 0xC2 then none
  else if b < 0xE0 then some ⟨1, 0x80, 0xBF, b.toNat % 0x20⟩
  else if b < 0xF0 then
    some ⟨2, if b == 0xE0 then 0xA0 else 0x80, if b == 0xED then 0x9F else 0xBF, b.toNat % 0x10⟩
  else if b < 0xF5 then
    some ⟨3, if b == 0xF0 then 0x90 else 0x80, if b == 0xF4 then 0x8F else 0xBF, b.toNat % 0x08⟩
  else none

/-- Read the bytes that a lead byte promises. A failure counts those read before it. -/
def follow : (count : Nat) → (low high : UInt8) → (value : Nat) → List UInt8 →
    Except (Nat × Reason) (Nat × List UInt8)
  | 0, _, _, value, rest => .ok (value, rest)
  | _ + 1, _, _, _, [] => .error (0, .unexpectedEnd)
  | count + 1, low, high, value, b :: rest =>
    if low ≤ b && b ≤ high then
      match follow count 0x80 0xBF (value * 0x40 + b.toNat % 0x40) rest with
      | .ok done => .ok done
      | .error (read, reason) => .error (read + 1, reason)
    else .error (0, .invalidContinuation)

theorem follow_length {count : Nat} {low high : UInt8} {value result : Nat}
    {bytes rest : List UInt8} (read : follow count low high value bytes = .ok (result, rest)) :
    rest.length ≤ bytes.length := by
  induction count generalizing low high value bytes with
  | zero => simp_all [follow]
  | succ count ih =>
    cases bytes with
    | nil => simp [follow] at read
    | cons b tail =>
      simp only [follow] at read
      split at read
      · split at read
        · rename_i done further
          cases done
          simp only [Except.ok.injEq, Prod.mk.injEq] at read
          obtain ⟨rfl, rfl⟩ := read
          exact Nat.le_succ_of_le (ih further)
        · simp at read
      · simp at read

/-- Read the characters of `bytes`, the first of which stands at `position`. -/
def decodeFrom (position : Nat) : List UInt8 → Except Fault (List Char)
  | [] => .ok []
  | b :: rest =>
    match Lead.ofByte? b with
    | none => .error ⟨position, 1, b, .invalidStart⟩
    | some lead =>
      match read : follow lead.count lead.low lead.high lead.bits rest with
      | .error (length, reason) => .error ⟨position, length + 1, b, reason⟩
      | .ok (value, tail) =>
        have : tail.length ≤ rest.length := follow_length read
        (decodeFrom (position + 1 + lead.count) tail).map (Char.ofNat value :: ·)
termination_by bytes => bytes.length

def decode (bytes : List UInt8) : Except Fault String :=
  (decodeFrom 0 bytes).map String.ofList

def encode (string : String) : List UInt8 :=
  string.toList.flatMap String.utf8EncodeChar

/-- Surrogates that have no place in UTF-8: `length` of them from `position`, the first of which is
U+D800 + `offset`. -/
structure Unencodable where
  position : Nat
  length : Nat
  offset : Fin 2048
deriving DecidableEq, Repr

/-- How many surrogates a list begins with. -/
def surrogateRun : List CodePoint → Nat
  | .surrogate _ :: rest => surrogateRun rest + 1
  | _ => 0

/-- The bytes that encode code points, the first of which stands at `position`. A surrogate is
written as the byte that it stands for; one that stands for none is a fault, together with all
surrogates right behind it. -/
def encodeFrom (byte? : Fin 2048 → Option UInt8) (position : Nat) :
    List CodePoint → Except Unencodable (List UInt8)
  | [] => .ok []
  | .scalar c :: rest =>
    (encodeFrom byte? (position + 1) rest).map (String.utf8EncodeChar c ++ ·)
  | .surrogate offset :: rest =>
    match byte? offset with
    | some byte => (encodeFrom byte? (position + 1) rest).map (byte :: ·)
    | none => .error ⟨position, surrogateRun rest + 1, offset⟩

def encodeText (text : Text) : Except Unencodable (List UInt8) :=
  encodeFrom (fun _ => none) 0 text.points

/-- The byte that a surrogate stands for in a text of the host: U+DC80 to U+DCFF stand for the bytes
that are no ASCII. -/
def hostByte? (offset : Fin 2048) : Option UInt8 :=
  if 0x480 ≤ offset.val && offset.val ≤ 0x4FF then some (UInt8.ofNat (offset.val - 0x400)) else none

def encodeHost (text : Text) : Except Unencodable (List UInt8) :=
  encodeFrom hostByte? 0 text.points

end SessionKeeper.Utf8
