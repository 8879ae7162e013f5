import SessionKeeper.Text.FormUrl

/-! # Texts as bytes and as forms

Bytes are read as a text exactly if they encode it (`Utf8.decode_eq_ok_iff`). Between the two stand
the well-formed sequences of bytes for one character (`Utf8.Sequence`): the encoder writes one for
every character, and the reader takes these and nothing else.

A form spells a text with few characters (`FormUrl.IsForm`), and what it spells can be read back
from it (`FormUrl.decode?_encode`).
-/

namespace SessionKeeper

theorem Text.toNat_ofNat {n : Nat} (scalar : n < 0xD800 ∨ 0xDFFF < n ∧ n < 0x110000) :
    (Char.ofNat n).toNat = n := by
  have valid : n.isValidChar := scalar
  rw [Char.ofNat, dif_pos valid]
  rfl

/-! ## UTF-8 -/

namespace Utf8

/-- A byte that continues a character. -/
def IsContinuation (b : UInt8) : Prop := 0x80 ≤ b.toNat ∧ b.toNat ≤ 0xBF

/-- The well-formed sequences of bytes for one character, with its number. -/
inductive Sequence : List UInt8 → Nat → Prop
  | one {a : UInt8} {n : Nat} (lead : a.toNat < 0x80) (number : n = a.toNat) : Sequence [a] n
  | two {a b : UInt8} {n : Nat} (lead : 0xC2 ≤ a.toNat ∧ a.toNat < 0xE0)
      (second : IsContinuation b) (number : n = a.toNat % 0x20 * 0x40 + b.toNat % 0x40) :
    Sequence [a, b] n
  | three {a b c : UInt8} {n : Nat} (lead : 0xE0 ≤ a.toNat ∧ a.toNat < 0xF0)
      (second : IsContinuation b) (overlong : a.toNat = 0xE0 → 0xA0 ≤ b.toNat)
      (surrogate : a.toNat = 0xED → b.toNat ≤ 0x9F) (third : IsContinuation c)
      (number : n = (a.toNat % 0x10 * 0x40 + b.toNat % 0x40) * 0x40 + c.toNat % 0x40) :
    Sequence [a, b, c] n
  | four {a b c d : UInt8} {n : Nat} (lead : 0xF0 ≤ a.toNat ∧ a.toNat < 0xF5)
      (second : IsContinuation b) (overlong : a.toNat = 0xF0 → 0x90 ≤ b.toNat)
      (beyond : a.toNat = 0xF4 → b.toNat ≤ 0x8F) (third : IsContinuation c)
      (fourth : IsContinuation d)
      (number : n = ((a.toNat % 0x08 * 0x40 + b.toNat % 0x40) * 0x40 + c.toNat % 0x40) * 0x40 +
        d.toNat % 0x40) :
    Sequence [a, b, c, d] n

theorem toNat_ofNat {n : Nat} (small : n < 0x100) : (UInt8.ofNat n).toNat = n := by
  rw [UInt8.toNat_ofNat']
  exact Nat.mod_eq_of_lt small

theorem eq_ofNat {b : UInt8} {n : Nat} (same : b.toNat = n) : b = UInt8.ofNat n := by
  rw [← same, UInt8.ofNat_toNat]

theorem sequence_utf8EncodeChar (char : Char) :
    Sequence (String.utf8EncodeChar char) char.toNat := by
  have valid : char.toNat < 0xD800 ∨ 0xDFFF < char.toNat ∧ char.toNat < 0x110000 := char.valid
  unfold String.utf8EncodeChar
  simp only [Char.toNat_val]
  generalize char.toNat = n at valid
  have fits (m : Nat) : m < 0x100 → (UInt8.ofNat m).toNat = m := toNat_ofNat
  split
  · have a := fits n (by omega)
    exact .one (by omega) a.symm
  · have last := fits (n % 64 + 128) (by omega)
    split
    · have lead := fits (n / 64 % 32 + 192) (by omega)
      exact .two (by omega) (by unfold IsContinuation; omega) (by omega)
    · have third := fits (n / 64 % 64 + 128) (by omega)
      split
      · have lead := fits (n / 4096 % 16 + 224) (by omega)
        exact .three (by omega) (by unfold IsContinuation; omega) (by omega) (by omega)
          (by unfold IsContinuation; omega) (by omega)
      · have second := fits (n / 4096 % 64 + 128) (by omega)
        have lead := fits (n / 262144 % 8 + 240) (by omega)
        exact .four (by omega) (by unfold IsContinuation; omega) (by omega) (by omega)
          (by unfold IsContinuation; omega) (by unfold IsContinuation; omega) (by omega)

/-- The number of a sequence is that of a character, which the sequence encodes. -/
theorem eq_utf8EncodeChar_of_sequence {bytes : List UInt8} {n : Nat}
    (sequence : Sequence bytes n) :
    (Char.ofNat n).toNat = n ∧ bytes = String.utf8EncodeChar (Char.ofNat n) := by
  have encoded (scalar : n < 0xD800 ∨ 0xDFFF < n ∧ n < 0x110000) :
      String.utf8EncodeChar (Char.ofNat n) =
        if n ≤ 127 then [UInt8.ofNat n]
        else if n ≤ 2047 then [UInt8.ofNat (n / 64 % 32 + 192), UInt8.ofNat (n % 64 + 128)]
        else if n ≤ 65535 then
          [UInt8.ofNat (n / 4096 % 16 + 224), UInt8.ofNat (n / 64 % 64 + 128),
            UInt8.ofNat (n % 64 + 128)]
        else
          [UInt8.ofNat (n / 262144 % 8 + 240), UInt8.ofNat (n / 4096 % 64 + 128),
            UInt8.ofNat (n / 64 % 64 + 128), UInt8.ofNat (n % 64 + 128)] := by
    unfold String.utf8EncodeChar
    simp only [Char.toNat_val, Text.toNat_ofNat scalar]
  cases sequence with
  | @one a _ lead number =>
    refine ⟨Text.toNat_ofNat (by omega), ?_⟩
    rw [encoded (by omega), if_pos (by omega), eq_ofNat number.symm]
  | @two a b _ lead second number =>
    unfold IsContinuation at second
    refine ⟨Text.toNat_ofNat (by omega), ?_⟩
    rw [encoded (by omega), if_neg (by omega), if_pos (by omega)]
    rw [← eq_ofNat (b := a) (by omega), ← eq_ofNat (b := b) (by omega)]
  | @three a b c _ lead second overlong surrogate third number =>
    unfold IsContinuation at second third
    refine ⟨Text.toNat_ofNat (by omega), ?_⟩
    rw [encoded (by omega), if_neg (by omega), if_neg (by omega), if_pos (by omega)]
    rw [← eq_ofNat (b := a) (by omega), ← eq_ofNat (b := b) (by omega),
      ← eq_ofNat (b := c) (by omega)]
  | @four a b c d _ lead second overlong beyond third fourth number =>
    unfold IsContinuation at second third fourth
    refine ⟨Text.toNat_ofNat (by omega), ?_⟩
    rw [encoded (by omega), if_neg (by omega), if_neg (by omega), if_neg (by omega)]
    rw [← eq_ofNat (b := a) (by omega), ← eq_ofNat (b := b) (by omega),
      ← eq_ofNat (b := c) (by omega), ← eq_ofNat (b := d) (by omega)]

/-! ### Reading -/

variable {count value n : Nat} {low high : UInt8} {bytes tail : List UInt8}

theorem follow_succ_eq_ok_iff {done : Nat × List UInt8} :
    follow (count + 1) low high value bytes = .ok done ↔
      ∃ b rest, bytes = b :: rest ∧ (low.toNat ≤ b.toNat ∧ b.toNat ≤ high.toNat) ∧
        follow count 0x80 0xBF (value * 0x40 + b.toNat % 0x40) rest = .ok done := by
  constructor
  · intro read
    cases bytes with
    | nil => cases read
    | cons b rest =>
      simp only [follow] at read
      split at read
      · rename_i inside
        simp only [Bool.and_eq_true, decide_eq_true_eq, UInt8.le_iff_toNat_le] at inside
        refine ⟨b, rest, rfl, inside, ?_⟩
        split at read
        · rename_i further
          rw [further, read]
        · cases read
      · cases read
  · rintro ⟨b, rest, rfl, inside, read⟩
    have test : (low ≤ b && b ≤ high) = true := by
      simp only [Bool.and_eq_true, decide_eq_true_eq, UInt8.le_iff_toNat_le]
      exact inside
    simp only [follow, if_pos test, read]

theorem follow_zero_eq_ok_iff :
    follow 0 low high value bytes = .ok (n, tail) ↔ value = n ∧ bytes = tail := by
  rw [follow, Except.ok.injEq, Prod.mk.injEq]

/-- What a lead byte promises, by its number. -/
theorem ofByte?_eq (b : UInt8) : Lead.ofByte? b =
    if b.toNat < 0x80 then some ⟨0, 0x80, 0xBF, b.toNat⟩
    else if b.toNat < 0xC2 then none
    else if b.toNat < 0xE0 then some ⟨1, 0x80, 0xBF, b.toNat % 0x20⟩
    else if b.toNat < 0xF0 then
      some ⟨2, if b.toNat = 0xE0 then 0xA0 else 0x80, if b.toNat = 0xED then 0x9F else 0xBF,
        b.toNat % 0x10⟩
    else if b.toNat < 0xF5 then
      some ⟨3, if b.toNat = 0xF0 then 0x90 else 0x80, if b.toNat = 0xF4 then 0x8F else 0xBF,
        b.toNat % 0x08⟩
    else none := by
  simp only [Lead.ofByte?, UInt8.lt_iff_toNat_lt, beq_iff_eq, ← UInt8.toNat_inj]
  rfl

/-- The range of the second byte of a character: two lead bytes narrow it. -/
theorem second_iff {a b lowest highest : UInt8} {first last : Nat} (low : 0x80 ≤ lowest.toNat)
    (high : highest.toNat ≤ 0xBF) :
    ((if a.toNat = first then lowest else 0x80).toNat ≤ b.toNat ∧
        b.toNat ≤ (if a.toNat = last then highest else 0xBF).toNat) ↔
      IsContinuation b ∧ (a.toNat = first → lowest.toNat ≤ b.toNat) ∧
        (a.toNat = last → b.toNat ≤ highest.toNat) := by
  have bounds : (0x80 : UInt8).toNat = 0x80 ∧ (0xBF : UInt8).toNat = 0xBF := ⟨rfl, rfl⟩
  unfold IsContinuation
  split <;> split <;> omega

/-- What is read behind a lead byte makes up a sequence with it. -/
theorem sequence_of_follow {b : UInt8} {lead : Lead} (promised : Lead.ofByte? b = some lead)
    (read : follow lead.count lead.low lead.high lead.bits bytes = .ok (n, tail)) :
    ∃ more, bytes = more ++ tail ∧ Sequence (b :: more) n := by
  rw [ofByte?_eq] at promised
  split at promised
  · obtain rfl := Option.some.inj promised
    obtain ⟨number, rfl⟩ := follow_zero_eq_ok_iff.mp read
    exact ⟨[], rfl, .one (by omega) number.symm⟩
  split at promised
  · cases promised
  split at promised
  · obtain rfl := Option.some.inj promised
    obtain ⟨second, _, rfl, continuation, read⟩ := follow_succ_eq_ok_iff.mp read
    obtain ⟨number, rfl⟩ := follow_zero_eq_ok_iff.mp read
    exact ⟨[second], rfl, .two (by omega) continuation number.symm⟩
  split at promised
  · obtain rfl := Option.some.inj promised
    obtain ⟨second, _, rfl, inside, read⟩ := follow_succ_eq_ok_iff.mp read
    obtain ⟨third, _, rfl, inThird, read⟩ := follow_succ_eq_ok_iff.mp read
    obtain ⟨number, rfl⟩ := follow_zero_eq_ok_iff.mp read
    obtain ⟨continuation, overlong, surrogate⟩ := (second_iff (by decide) (by decide)).mp inside
    exact ⟨[second, third], rfl,
      .three (by omega) continuation overlong surrogate inThird number.symm⟩
  split at promised
  · obtain rfl := Option.some.inj promised
    obtain ⟨second, _, rfl, inside, read⟩ := follow_succ_eq_ok_iff.mp read
    obtain ⟨third, _, rfl, inThird, read⟩ := follow_succ_eq_ok_iff.mp read
    obtain ⟨fourth, _, rfl, inFourth, read⟩ := follow_succ_eq_ok_iff.mp read
    obtain ⟨number, rfl⟩ := follow_zero_eq_ok_iff.mp read
    obtain ⟨continuation, overlong, beyond⟩ := (second_iff (by decide) (by decide)).mp inside
    exact ⟨[second, third, fourth], rfl,
      .four (by omega) continuation overlong beyond inThird inFourth number.symm⟩
  · cases promised

theorem follow_of_sequence {b : UInt8} {more : List UInt8}
    (sequence : Sequence (b :: more) n) (tail : List UInt8) :
    ∃ lead, Lead.ofByte? b = some lead ∧
      follow lead.count lead.low lead.high lead.bits (more ++ tail) = .ok (n, tail) := by
  cases sequence with
  | one lead number =>
    refine ⟨_, by rw [ofByte?_eq, if_pos lead], ?_⟩
    exact follow_zero_eq_ok_iff.mpr ⟨number.symm, rfl⟩
  | two lead second number =>
    refine ⟨_, by rw [ofByte?_eq, if_neg (by omega), if_neg (by omega), if_pos (by omega)], ?_⟩
    refine follow_succ_eq_ok_iff.mpr ⟨_, _, rfl, second, ?_⟩
    exact follow_zero_eq_ok_iff.mpr ⟨number.symm, rfl⟩
  | three lead second overlong surrogate third number =>
    refine ⟨_, by rw [ofByte?_eq, if_neg (by omega), if_neg (by omega), if_neg (by omega),
      if_pos (by omega)], ?_⟩
    refine follow_succ_eq_ok_iff.mpr ⟨_, _, rfl,
      (second_iff (by decide) (by decide)).mpr ⟨second, overlong, surrogate⟩, ?_⟩
    refine follow_succ_eq_ok_iff.mpr ⟨_, _, rfl, third, ?_⟩
    exact follow_zero_eq_ok_iff.mpr ⟨number.symm, rfl⟩
  | four lead second overlong beyond third fourth number =>
    refine ⟨_, by rw [ofByte?_eq, if_neg (by omega), if_neg (by omega), if_neg (by omega),
      if_neg (by omega), if_pos (by omega)], ?_⟩
    refine follow_succ_eq_ok_iff.mpr ⟨_, _, rfl,
      (second_iff (by decide) (by decide)).mpr ⟨second, overlong, beyond⟩, ?_⟩
    refine follow_succ_eq_ok_iff.mpr ⟨_, _, rfl, third, ?_⟩
    refine follow_succ_eq_ok_iff.mpr ⟨_, _, rfl, fourth, ?_⟩
    exact follow_zero_eq_ok_iff.mpr ⟨number.symm, rfl⟩

/-- What encodes a character is read as that character. -/
theorem decodeFrom_utf8EncodeChar (position : Nat) (char : Char) (tail : List UInt8) :
    ∃ next, decodeFrom position (String.utf8EncodeChar char ++ tail) =
      (decodeFrom next tail).map (char :: ·) := by
  have sequence := sequence_utf8EncodeChar char
  cases encoded : String.utf8EncodeChar char with
  | nil => rw [encoded] at sequence; cases sequence
  | cons b more =>
    rw [encoded] at sequence
    obtain ⟨lead, promised, read⟩ := follow_of_sequence sequence tail
    refine ⟨position + 1 + lead.count, ?_⟩
    rw [List.cons_append, decodeFrom, promised]
    dsimp only
    split
    · rename_i failed
      rw [read] at failed
      cases failed
    · rename_i other
      rw [read] at other
      obtain ⟨rfl, rfl⟩ := Prod.mk.inj (Except.ok.inj other)
      rw [Char.ofNat_toNat]

theorem decodeFrom_flatMap (position : Nat) (chars : List Char) :
    decodeFrom position (chars.flatMap String.utf8EncodeChar) = .ok chars := by
  induction chars generalizing position with
  | nil => rw [List.flatMap_nil, decodeFrom]
  | cons char rest ih =>
    obtain ⟨next, read⟩ :=
      decodeFrom_utf8EncodeChar position char (rest.flatMap String.utf8EncodeChar)
    rw [List.flatMap_cons, read, ih]
    rfl

/-- Whatever is read encodes what it is read as. -/
theorem eq_flatMap_of_decodeFrom {position : Nat} {bytes : List UInt8} {chars : List Char}
    (read : decodeFrom position bytes = .ok chars) :
    bytes = chars.flatMap String.utf8EncodeChar := by
  fun_induction decodeFrom position bytes generalizing chars with
  | case1 =>
    obtain rfl := Except.ok.inj read
    rfl
  | case2 => cases read
  | case3 => cases read
  | case4 position b rest lead promised value tail following shorter ih =>
    cases further : decodeFrom (position + 1 + lead.count) tail with
    | error fault => simp [further, Except.map] at read
    | ok others =>
      simp only [further, Except.map, Except.ok.injEq] at read
      subst read
      obtain ⟨more, rfl, sequence⟩ := sequence_of_follow promised following
      rw [List.flatMap_cons, ← (eq_utf8EncodeChar_of_sequence sequence).2, ← ih further]
      rfl

/-- **UTF-8.** Bytes are read as a text exactly if they encode it. -/
theorem decode_eq_ok_iff {bytes : List UInt8} {text : String} :
    decode bytes = .ok text ↔ bytes = encode text := by
  constructor
  · intro read
    unfold decode at read
    cases whole : decodeFrom 0 bytes with
    | error fault => simp [whole, Except.map] at read
    | ok chars =>
      simp only [whole, Except.map, Except.ok.injEq] at read
      subst read
      rw [encode, String.toList_ofList]
      exact eq_flatMap_of_decodeFrom whole
  · rintro rfl
    rw [decode, encode, decodeFrom_flatMap]
    simp [Except.map]

end Utf8

/-! ## Forms -/

namespace FormUrl

/-- A character that stands for itself, or the plus that stands for a space. -/
def isPlain (c : Char) : Bool := c.isAlphanum || c ∈ ['_', '.', '-', '~', '+']

/-- A hexadecimal digit in upper case. -/
def isHexDigit (c : Char) : Bool := c.isDigit || c ∈ ['A', 'B', 'C', 'D', 'E', 'F']

/-- What a form-encoded text is made of. -/
inductive IsForm : List Char → Prop
  | nil : IsForm []
  | plain {c : Char} {rest : List Char} (known : isPlain c) (form : IsForm rest) :
    IsForm (c :: rest)
  | escape {high low : Char} {rest : List Char} (first : isHexDigit high)
      (second : isHexDigit low) (form : IsForm rest) : IsForm ('%' :: high :: low :: rest)

theorem hexValue?_hexDigit (digit : Nat) (small : digit < 16) :
    Text.hexValue? (hexDigit digit) = some digit ∧ isHexDigit (hexDigit digit) := by
  have all : ∀ digit < 16,
      Text.hexValue? (hexDigit digit) = some digit ∧ isHexDigit (hexDigit digit) := by decide
  exact all digit small

theorem of_isUnreserved {b : UInt8} (unreserved : isUnreserved b) :
    isPlain (Char.ofNat b.toNat) ∧ Char.ofNat b.toNat ≠ '+' ∧ Char.ofNat b.toNat ≠ '%' ∧
      String.utf8EncodeChar (Char.ofNat b.toNat) = [b] := by
  have all : ∀ n < 256, isUnreserved (UInt8.ofNat n) → isPlain (Char.ofNat n) ∧
      Char.ofNat n ≠ '+' ∧ Char.ofNat n ≠ '%' ∧
        String.utf8EncodeChar (Char.ofNat n) = [UInt8.ofNat n] := by decide +kernel
  have own := all b.toNat b.toNat_lt
  rw [UInt8.ofNat_toNat] at own
  exact own unreserved

theorem decodeBytes_cons {c : Char} (plus : c ≠ '+') (percent : c ≠ '%') (rest : List Char) :
    decodeBytes (c :: rest) = (decodeBytes rest).map (String.utf8EncodeChar c ++ ·) := by
  rw [decodeBytes.eq_def]
  split
  · rename_i none
    cases none
  · rename_i same
    exact absurd (List.cons.inj same).1 plus
  · rename_i same
    exact absurd (List.cons.inj same).1 percent
  · rename_i same
    obtain ⟨rfl, rfl⟩ := List.cons.inj same
    exact if_neg (by simpa using percent)

theorem isForm_encodeByte (b : UInt8) {rest : List Char} (form : IsForm rest) :
    IsForm (encodeByte b ++ rest) := by
  unfold encodeByte
  split
  · rename_i unreserved
    exact .plain (of_isUnreserved unreserved).1 form
  split
  · exact .plain rfl form
  · have range := b.toNat_lt
    exact .escape (hexValue?_hexDigit _ (by omega)).2 (hexValue?_hexDigit _ (by omega)).2 form

/-- What a byte is written as is read as that byte. -/
theorem decodeBytes_encodeByte (b : UInt8) (rest : List Char) :
    decodeBytes (encodeByte b ++ rest) = (decodeBytes rest).map (b :: ·) := by
  unfold encodeByte
  split
  · rename_i unreserved
    obtain ⟨_, plus, percent, encoded⟩ := of_isUnreserved unreserved
    rw [List.singleton_append, decodeBytes_cons plus percent, encoded]
    rfl
  split
  · rename_i space
    rw [beq_iff_eq.mp space, List.singleton_append, decodeBytes]
  · have range := b.toNat_lt
    have high := (hexValue?_hexDigit (b.toNat / 16) (by omega)).1
    have low := (hexValue?_hexDigit (b.toNat % 16) (by omega)).1
    have whole : b.toNat / 16 * 16 + b.toNat % 16 = b.toNat := by omega
    rw [List.cons_append, List.cons_append, List.cons_append, List.nil_append, decodeBytes, high,
      low, Option.bind_some, Option.bind_some, whole, UInt8.ofNat_toNat]

theorem decodeBytes_flatMap (bytes : List UInt8) :
    decodeBytes (bytes.flatMap encodeByte) = some bytes := by
  induction bytes with
  | nil => rfl
  | cons b rest ih =>
    rw [List.flatMap_cons, decodeBytes_encodeByte, ih]
    rfl

theorem isForm_encode (text : String) : IsForm (encode text).toList := by
  unfold encode encodeBytes
  rw [String.toList_ofList]
  induction Utf8.encode text with
  | nil => exact .nil
  | cons b rest ih =>
    rw [List.flatMap_cons]
    exact isForm_encodeByte b ih

/-- A form-encoded text is read as the text that it spells. -/
theorem decode?_encode (text : String) : decode? (encode text) = some text := by
  unfold decode? encode encodeBytes
  rw [String.toList_ofList, decodeBytes_flatMap, Option.bind_some, Utf8.decode_eq_ok_iff.mpr rfl]
  rfl

end FormUrl

end SessionKeeper
