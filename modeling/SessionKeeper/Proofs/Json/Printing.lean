import SessionKeeper.Json.Printer
import SessionKeeper.Proofs.Json.Grammar
import SessionKeeper.Proofs.Text.Encoding
import SessionKeeper.Proofs.Text.Quoting

/-! # Printed objects are documents

An object of texts is printed as a document of that object (`Json.document_print`), whatever
characters the texts hold: a character that is written by an escape, or by the two escapes of a
surrogate pair, is put together again from the units that these name
(`Json.renders_printChar`). It keeps to the limits of strict documents
(`Json.strictDocument_print`), so it is read back.
-/

namespace SessionKeeper.Json

/-! ## Characters -/

/-- Characters that are read as pieces which stand together for `c`, whatever follows. -/
def Renders (c : Char) (written : List Char) : Prop :=
  ∃ pieces, Inscribes pieces written ∧
    ∀ rest, assemble (pieces ++ rest) = .scalar c :: assemble rest

/-- A numeric escape names the unit that it is written for. -/
theorem inscribes_unitEscape {n : Nat} (small : n < 0x10000) {pieces : List Piece}
    {written : List Char} (rest : Inscribes pieces written) :
    Inscribes (.unit n :: pieces) (unitEscape n ++ written) := by
  refine .unit ?_ rest
  have digit (place : Nat) :=
    Text.hexValue?_lowerDigit (Nat.mod_lt (n / Nat.pow 16 place) (by decide))
  simp only [unit?, digit, Option.bind_eq_bind, Option.bind_some, Option.some.injEq]
  have first : n / Nat.pow 16 0 % 16 = n % 16 := by rw [Nat.pow_eq, Nat.pow_zero, Nat.div_one]
  have second : n / Nat.pow 16 1 % 16 = n / 16 % 16 := rfl
  have third : n / Nat.pow 16 2 % 16 = n / 256 % 16 := rfl
  have fourth : n / Nat.pow 16 3 % 16 = n / 4096 % 16 := rfl
  omega

theorem renders_plain {c : Char} (visible : 0x20 ≤ c.toNat) (quote : c ≠ '\x22')
    (backslash : c ≠ '\\') : Renders c [c] :=
  ⟨[.plain c], .plain visible quote backslash .nil, fun _ => rfl⟩

theorem renders_escaped {mark c : Char} (known : escaped? mark = some c) :
    Renders c ['\\', mark] :=
  ⟨[.plain c], .escaped known .nil, fun _ => rfl⟩

theorem assemble_unit {n : Nat} (rest : List Piece) (whole : n < 0xD800 ∨ 0xDFFF < n) :
    assemble (.unit n :: rest) = .ofNat n :: assemble rest := by
  rcases rest with _ | ⟨_ | low, rest⟩
  · rfl
  · rfl
  · rw [assemble, if_neg]
    simp only [Bool.and_eq_true, decide_eq_true_eq]
    omega

theorem renders_unit {c : Char} (short : c.toNat < 0x10000) : Renders c (unitEscape c.toNat) := by
  have valid : c.toNat < 0xD800 ∨ 0xDFFF < c.toNat ∧ c.toNat < 0x110000 := c.valid
  have escape := inscribes_unitEscape short .nil
  rw [List.append_nil] at escape
  refine ⟨_, escape, fun rest => ?_⟩
  rw [List.singleton_append, assemble_unit rest (by omega), CodePoint.ofNat, dif_neg (by omega),
    Char.ofNat_toNat]

/-- The two units of a surrogate pair stand for the character beyond U+FFFF that they encode. -/
theorem renders_pair {c : Char} (long : 0x10000 ≤ c.toNat) :
    Renders c (unitEscape (0xD800 + (c.toNat - 0x10000) / 0x400) ++
      unitEscape (0xDC00 + (c.toNat - 0x10000) % 0x400)) := by
  have valid : c.toNat < 0xD800 ∨ 0xDFFF < c.toNat ∧ c.toNat < 0x110000 := c.valid
  have low := inscribes_unitEscape (n := 0xDC00 + (c.toNat - 0x10000) % 0x400) (by omega) .nil
  rw [List.append_nil] at low
  refine ⟨_, inscribes_unitEscape (by omega) low, fun rest => ?_⟩
  have whole : 0x10000 + (0xD800 + (c.toNat - 0x10000) / 0x400 - 0xD800) * 0x400 +
      (0xDC00 + (c.toNat - 0x10000) % 0x400 - 0xDC00) = c.toNat := by omega
  rw [List.cons_append, List.singleton_append, assemble, if_pos, whole, Char.ofNat_toNat]
  simp only [Bool.and_eq_true, decide_eq_true_eq]
  omega

theorem renders_printChar (c : Char) : Renders c (printChar c) := by
  have short {special mark : Char} (same : (c == special) = true)
      (known : escaped? mark = some special) : Renders c ['\\', mark] :=
    renders_escaped (known.trans (congrArg some (beq_iff_eq.mp same).symm))
  unfold printChar
  -- The characters that have an escape of their own.
  iterate 7
    split
    · rename_i same
      exact short same rfl
  split
  · rename_i quote backslash _ _ _ _ _ visible
    rw [Bool.and_eq_true, decide_eq_true_eq] at visible
    exact renders_plain visible.1 (by simpa using quote) (by simpa using backslash)
  split
  · rename_i short
    exact renders_unit short
  · exact renders_pair (by omega)

/-! ## Texts -/

theorem Inscribes.append {first second : List Piece} {written more : List Char}
    (start : Inscribes first written) (rest : Inscribes second more) :
    Inscribes (first ++ second) (written ++ more) := by
  induction start with
  | nil => exact rest
  | plain visible quote backslash inside ih => exact .plain visible quote backslash ih
  | escaped known inside ih => exact .escaped known ih
  | unit known inside ih => exact .unit known ih

theorem inscribes_flatMap_printPoint (characters : List Char) :
    ∃ pieces, Inscribes pieces ((characters.map CodePoint.scalar).flatMap printPoint) ∧
      assemble pieces = characters.map .scalar := by
  induction characters with
  | nil => exact ⟨[], .nil, rfl⟩
  | cons c characters ih =>
    obtain ⟨front, begins, assembled⟩ := renders_printChar c
    obtain ⟨pieces, inside, same⟩ := ih
    refine ⟨front ++ pieces, begins.append inside, ?_⟩
    rw [assembled, same, List.map_cons]

theorem isSpelled_printText (string : String) :
    IsSpelled (.text string) (printText string) := by
  obtain ⟨pieces, inside, same⟩ := inscribes_flatMap_printPoint string.toList
  have spelled := IsSpelled.text inside
  rw [same] at spelled
  exact spelled

/-! ## Objects -/

/-- Characters that spell the tokens of a phrase wherever they stand. -/
def Writes (phrase : Phrase) (written : List Char) : Prop :=
  ∃ tokens, Derives phrase tokens ∧
    ∀ more rest, Lexes more rest → Lexes (tokens ++ more) (written ++ rest)

theorem IsSpelled.lexes {token : Token} {written rest : List Char} {more : List Token}
    (spelled : IsSpelled token written) (lexes : Lexes more rest) :
    Lexes (token :: more) (written ++ rest) := by
  have blank : ∀ c ∈ ([] : List Char), isSpace c = true := by simp
  exact .token blank spelled lexes

theorem Lexes.space {tokens : List Token} {source : List Char} (lexes : Lexes tokens source) :
    Lexes tokens (' ' :: source) := by
  cases lexes with
  | finish blank => exact .finish (List.forall_mem_cons.mpr ⟨rfl, blank⟩)
  | token blank spelled more => exact .token (List.forall_mem_cons.mpr ⟨rfl, blank⟩) spelled more

theorem Derives.members_append {members others : List (Text × Json)} {tokens more : List Token}
    (before : Derives (.members members) tokens) (behind : Derives (.members others) more) :
    Derives (.members (members ++ others)) (tokens ++ .comma :: more) := by
  generalize phrase : Phrase.members others = rest at behind
  induction behind generalizing others with
  | member only =>
    cases phrase
    exact .nextMember before only
  | @nextMember earlier name value _ _ _ last ih =>
    cases phrase
    rw [← List.append_assoc, ← List.cons_append, ← List.append_assoc]
    exact .nextMember (ih rfl) last
  | _ => cases phrase

theorem Writes.text (string : String) : Writes (.value (.text string)) (printText string) :=
  ⟨_, .text string, fun _ _ => (isSpelled_printText string).lexes⟩

/-- A member is written as its name, a colon and its value. -/
theorem Writes.member {value : Json} {written : List Char} (name : String)
    (writes : Writes (.value value) written) :
    Writes (.members [(name, value)]) (printText name ++ ':' :: ' ' :: written) := by
  obtain ⟨tokens, derives, lexes⟩ := writes
  refine ⟨_, .member derives, fun more rest behind => ?_⟩
  have colon : IsSpelled .colon [':'] := .punctuation rfl
  have inside := (isSpelled_printText name).lexes (colon.lexes (lexes more rest behind).space)
  simpa using inside

theorem Writes.members {members others : List (Text × Json)} {written more : List Char}
    (first : Writes (.members members) written) (second : Writes (.members others) more) :
    Writes (.members (members ++ others)) (written ++ ',' :: ' ' :: more) := by
  obtain ⟨tokens, derives, lexes⟩ := first
  obtain ⟨later, derivesLater, lexesLater⟩ := second
  refine ⟨_, derives.members_append derivesLater, fun tail rest behind => ?_⟩
  have comma : IsSpelled .comma [','] := .punctuation rfl
  have inside := lexes _ _ (comma.lexes (lexesLater tail rest behind).space)
  simpa using inside

theorem Writes.object {members : List (Text × Json)} {written : List Char}
    (writes : Writes (.members members) written) :
    Writes (.value (.object members)) ('\x7b' :: written ++ ['\x7d']) := by
  obtain ⟨tokens, derives, lexes⟩ := writes
  refine ⟨_, .object derives, fun more rest behind => ?_⟩
  have opening : IsSpelled .openBrace ['\x7b'] := .punctuation rfl
  have closing : IsSpelled .closeBrace ['\x7d'] := .punctuation rfl
  have inside := opening.lexes (lexes _ _ (closing.lexes behind))
  simpa using inside

theorem Writes.document {value : Json} {written : List Char}
    (writes : Writes (.value value) written) : Document value written := by
  obtain ⟨tokens, derives, lexes⟩ := writes
  have whole := lexes [.finish] [] (.finish (by simp))
  rw [List.append_nil] at whole
  exact ⟨tokens, derives, whole⟩

/-- The object with these names and texts. -/
def ofStrings (members : List (String × String)) : List (Text × Json) :=
  members.map fun member => (member.1, .text member.2)

theorem writes_printMembers (member : String × String) (others : List (String × String)) :
    Writes (.members (ofStrings (member :: others)))
      (printMembers (ofStrings (member :: others))) := by
  induction others generalizing member with
  | nil => exact .member member.1 (.text member.2)
  | cons next others ih =>
    have first := Writes.member member.1 (.text member.2)
    have whole := first.members (ih next)
    simpa [ofStrings, printMembers, printChars] using whole

/-- An object of texts is printed as a document of itself. -/
theorem document_print (members : List (String × String)) :
    Document (.object (ofStrings members)) (print (.object (ofStrings members))).toList := by
  rw [print, String.toList_ofList]
  cases members with
  | nil =>
    have opening : IsSpelled .openBrace ['\x7b'] := .punctuation rfl
    have closing : IsSpelled .closeBrace ['\x7d'] := .punctuation rfl
    exact Writes.document ⟨_, .emptyObject, fun _ _ behind => opening.lexes (closing.lexes behind)⟩
  | cons member others => exact (writes_printMembers member others).object.document

/-! ## Limits -/

theorem depthOfMembers_ofStrings (members : List (String × String)) :
    depthOfMembers (ofStrings members) = 0 := by
  induction members with
  | nil => rfl
  | cons member members ih => simpa [ofStrings, depthOfMembers, depth] using ih

theorem depth_ofStrings_le (members : List (String × String)) :
    depth (.object (ofStrings members)) ≤ 1 := by
  cases members with
  | nil => exact Nat.zero_le 1
  | cons member members =>
    rw [depth_object (by simp [ofStrings]), depthOfMembers_ofStrings]

theorem isScalar_ofStrings (members : List (String × String)) :
    isScalar (.object (ofStrings members)) = true := by
  rw [isScalar]
  induction members with
  | nil => rfl
  | cons member members ih =>
    simpa [ofStrings, membersAreScalar, isScalar, Text.toString?_ofString] using ih

theorem strictDocument_print (members : List (String × String)) :
    StrictDocument (.object (ofStrings members)) (print (.object (ofStrings members))) :=
  ⟨document_print members, (depth_ofStrings_le members).trans (by decide),
    isScalar_ofStrings members⟩

end SessionKeeper.Json
