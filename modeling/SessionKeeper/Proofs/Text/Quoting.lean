import Mathlib.Tactic.Ring
import SessionKeeper.Text.Digits
import SessionKeeper.Text.Quoted

/-! # Quoted texts can be read back

A quoted text tells the text, and where the quotation ends (`Text.quote_append_inj`): whatever
stands for a code point between quotes (`Text.Spelling`) can be read back
(`Text.unquotePoint_append`), and does not begin with the quote mark that ends the quotation.
-/

namespace SessionKeeper

theorem CodePoint.toNat_lt (point : CodePoint) : point.toNat < 0x110000 := by
  cases point with
  | scalar c =>
    have valid : c.toNat < 0xD800 ∨ 0xDFFF < c.toNat ∧ c.toNat < 0x110000 := c.valid
    rw [toNat]
    omega
  | surrogate offset =>
    rw [toNat]
    omega

theorem CodePoint.ofNat_toNat (point : CodePoint) : CodePoint.ofNat point.toNat = point := by
  cases point with
  | scalar c =>
    have valid : c.toNat < 0xD800 ∨ 0xDFFF < c.toNat ∧ c.toNat < 0x110000 := c.valid
    have range : ¬ (0xD800 ≤ c.toNat ∧ c.toNat < 0xE000) := by omega
    rw [toNat, ofNat, dif_neg range, Char.ofNat_toNat]
  | surrogate offset =>
    have range : 0xD800 ≤ 0xD800 + offset.val ∧ 0xD800 + offset.val < 0xE000 := by omega
    rw [toNat, ofNat, dif_pos range]
    exact congrArg surrogate (Fin.ext (Nat.add_sub_cancel_left 0xD800 offset.val))

namespace Text

/-! ## Numbers -/

theorem hexValue?_lowerDigit {digit : Nat} (small : digit < 16) :
    hexValue? (Char.ofNat (if digit < 10 then 0x30 + digit else 0x57 + digit)) = some digit := by
  have each : ∀ digit : Fin 16,
      hexValue? (Char.ofNat (if digit.val < 10 then 0x30 + digit else 0x57 + digit)) =
        some digit.val := by decide
  exact each ⟨digit, small⟩

/-- The number that hexadecimal digits spell behind `value`. -/
def hexNumber (value : Nat) (digits : List Char) : Nat :=
  digits.foldl (fun value digit => value * 16 + (hexValue? digit).getD 0) value

theorem hexDigits_succ (width n : Nat) :
    hexDigits (width + 1) n =
      Char.ofNat (if n / 16 ^ width % 16 < 10 then 0x30 + n / 16 ^ width % 16
        else 0x57 + n / 16 ^ width % 16) :: hexDigits width n := by
  rw [hexDigits, List.range_succ, List.reverse_append]
  rfl

theorem length_hexDigits (width n : Nat) : (hexDigits width n).length = width := by
  simp [hexDigits]

theorem hexNumber_hexDigits (width n value : Nat) :
    hexNumber value (hexDigits width n) = value * 16 ^ width + n % 16 ^ width := by
  induction width generalizing value with
  | zero => simp [hexDigits, hexNumber, Nat.mod_one]
  | succ width ih =>
    have digit := hexValue?_lowerDigit (Nat.mod_lt (n / 16 ^ width) (by decide : 0 < 16))
    have rest := ih (value * 16 + n / 16 ^ width % 16)
    rw [hexDigits_succ, hexNumber, List.foldl_cons, digit, Option.getD_some]
    refine rest.trans ?_
    rw [Nat.pow_succ, Nat.mod_mul]
    ring

/-! ## Code points -/

/-- Read a number of so many digits. -/
def unquoteNumber (width : Nat) (digits : List Char) : CodePoint × List Char :=
  (.ofNat (hexNumber 0 (digits.take width)), digits.drop width)

/-- Read the first code point between quotes; and what stands behind it. -/
def unquotePoint : List Char → Option (CodePoint × List Char)
  | [] => none
  | '\\' :: 'n' :: rest => some (.scalar '\n', rest)
  | '\\' :: 'r' :: rest => some (.scalar '\r', rest)
  | '\\' :: 't' :: rest => some (.scalar '\t', rest)
  | '\\' :: 'x' :: rest => some (unquoteNumber 2 rest)
  | '\\' :: 'u' :: rest => some (unquoteNumber 4 rest)
  | '\\' :: 'U' :: rest => some (unquoteNumber 8 rest)
  | '\\' :: c :: rest => some (.scalar c, rest)
  | c :: rest => some (.scalar c, rest)

theorem unquoteNumber_hexDigits {width n : Nat} (small : n < 16 ^ width) (rest : List Char) :
    unquoteNumber width (hexDigits width n ++ rest) = (.ofNat n, rest) := by
  have taken : (hexDigits width n ++ rest).take width = hexDigits width n :=
    List.take_left' (length_hexDigits width n)
  have dropped : (hexDigits width n ++ rest).drop width = rest :=
    List.drop_left' (length_hexDigits width n)
  rw [unquoteNumber, taken, dropped, hexNumber_hexDigits, Nat.zero_mul, Nat.zero_add,
    Nat.mod_eq_of_lt small]

/-- A mark that texts are quoted with. -/
def IsQuoteMark (mark : Char) : Prop := mark = '\x27' ∨ mark = '\x22'

theorem isQuoteMark_quoteMarkFor (text : Text) : IsQuoteMark (quoteMarkFor text) := by
  unfold quoteMarkFor
  split
  · exact .inr rfl
  · exact .inl rfl

/-- What stands for a code point between quotes. -/
inductive Spelling (mark : Char) : CodePoint → List Char → Prop
  | itself (c : Char) (unmarked : c ≠ mark) (unescaped : c ≠ '\\') : Spelling mark (.scalar c) [c]
  | escaped (c : Char) (special : c = mark ∨ c = '\\') : Spelling mark (.scalar c) ['\\', c]
  | newline : Spelling mark (.scalar '\n') ['\\', 'n']
  | feed : Spelling mark (.scalar '\r') ['\\', 'r']
  | tab : Spelling mark (.scalar '\t') ['\\', 't']
  | short (point : CodePoint) (small : point.toNat < 16 ^ 2) :
    Spelling mark point ('\\' :: 'x' :: hexDigits 2 point.toNat)
  | middle (point : CodePoint) (small : point.toNat < 16 ^ 4) :
    Spelling mark point ('\\' :: 'u' :: hexDigits 4 point.toNat)
  | long (point : CodePoint) (small : point.toNat < 16 ^ 8) :
    Spelling mark point ('\\' :: 'U' :: hexDigits 8 point.toNat)

theorem spelling_numericEscape (mark : Char) (point : CodePoint) :
    Spelling mark point (numericEscape point.toNat) := by
  have bounded := point.toNat_lt
  unfold numericEscape
  split
  · exact .short point (by omega)
  · split
    · exact .middle point (by omega)
    · exact .long point (by omega)

theorem spelling_quotePoint (mark : Char) (point : CodePoint) :
    Spelling mark point (quotePoint mark point) := by
  cases point with
  | surrogate offset => exact spelling_numericEscape mark (.surrogate offset)
  | scalar c =>
    change Spelling mark (.scalar c) (quoteChar mark c)
    unfold quoteChar
    split_ifs with special newline feed tab
    · exact .escaped c (by simpa using special)
    · obtain rfl := eq_of_beq newline
      exact .newline
    · obtain rfl := eq_of_beq feed
      exact .feed
    · obtain rfl := eq_of_beq tab
      exact .tab
    · obtain ⟨unmarked, unescaped⟩ : c ≠ mark ∧ c ≠ '\\' := by simpa using special
      exact .itself c unmarked unescaped
    · exact spelling_numericEscape mark (.scalar c)

section

variable {mark : Char} (isMark : IsQuoteMark mark) {point : CodePoint} {written : List Char}

include isMark

theorem Spelling.unquotePoint (spelling : Spelling mark point written) (rest : List Char) :
    unquotePoint (written ++ rest) = some (point, rest) := by
  cases spelling with
  | itself c _ unescaped =>
    rw [List.singleton_append]
    unfold Text.unquotePoint
    split <;> simp_all
  | escaped c special =>
    rcases special with rfl | rfl
    · rcases isMark with rfl | rfl <;> rfl
    · rfl
  | newline | feed | tab => rfl
  | short _ small | middle _ small | long _ small =>
    exact (congrArg some (unquoteNumber_hexDigits small rest)).trans (by rw [point.ofNat_toNat])

theorem Spelling.exists_cons (spelling : Spelling mark point written) :
    ∃ c rest, written = c :: rest ∧ c ≠ mark := by
  have unmarked : '\\' ≠ mark := by
    rcases isMark with rfl | rfl <;> decide
  cases spelling with
  | itself c other _ => exact ⟨c, [], rfl, other⟩
  | escaped | newline | feed | tab | short | middle | long => exact ⟨_, _, rfl, unmarked⟩

/-- The first code point between quotes can be read back, whatever follows. -/
theorem unquotePoint_append (point : CodePoint) (rest : List Char) :
    unquotePoint (quotePoint mark point ++ rest) = some (point, rest) :=
  (spelling_quotePoint mark point).unquotePoint isMark rest

/-- What stands between quotes does not begin with a quote mark of its own. -/
theorem exists_quotePoint_eq_cons (point : CodePoint) :
    ∃ c rest, quotePoint mark point = c :: rest ∧ c ≠ mark :=
  (spelling_quotePoint mark point).exists_cons isMark

end

/-! ## Texts -/

/-- What stands between quotes, up to the quote mark at its end, tells the code points. -/
theorem flatMap_quotePoint_inj {mark : Char} (isMark : IsQuoteMark mark)
    {first second : List CodePoint} {rest other : List Char}
    (same : first.flatMap (quotePoint mark) ++ mark :: rest =
      second.flatMap (quotePoint mark) ++ mark :: other) :
    first = second ∧ rest = other := by
  induction first generalizing second with
  | nil =>
    cases second with
    | nil => exact ⟨rfl, (List.cons.inj same).2⟩
    | cons point points =>
      obtain ⟨c, spelled, written, different⟩ := exists_quotePoint_eq_cons isMark point
      rw [List.flatMap_cons, written] at same
      exact absurd (List.cons.inj same).1.symm different
  | cons point points ih =>
    cases second with
    | nil =>
      obtain ⟨c, spelled, written, different⟩ := exists_quotePoint_eq_cons isMark point
      rw [List.flatMap_cons, written] at same
      exact absurd (List.cons.inj same).1 different
    | cons again others =>
      rw [List.flatMap_cons, List.flatMap_cons, List.append_assoc, List.append_assoc] at same
      have read := congrArg unquotePoint same
      rw [unquotePoint_append isMark, unquotePoint_append isMark] at read
      obtain ⟨rfl, behind⟩ := Prod.mk.inj (Option.some.inj read)
      obtain ⟨rfl, ended⟩ := ih behind
      exact ⟨rfl, ended⟩

theorem toList_quote (text : Text) :
    (quote text).toList = quoteMarkFor text ::
      (text.points.flatMap (quotePoint (quoteMarkFor text)) ++ [quoteMarkFor text]) := by
  rw [quote, String.toList_ofList, List.cons_append]

/-- A quoted text tells the text, and where the quotation ends. -/
theorem quote_append_inj {first second : Text} {rest other : List Char}
    (same : (quote first).toList ++ rest = (quote second).toList ++ other) :
    first = second ∧ rest = other := by
  simp only [toList_quote, List.cons_append, List.append_assoc] at same
  obtain ⟨marks, spelled⟩ := List.cons.inj same
  rw [marks] at spelled
  obtain ⟨points, ended⟩ := flatMap_quotePoint_inj (isQuoteMark_quoteMarkFor second) spelled
  exact ⟨congrArg Text.mk points, ended⟩

end Text

end SessionKeeper
