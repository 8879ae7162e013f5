/-! # Text

A text is a sequence of code points. Besides characters it may hold surrogates that stand alone: a
JSON document can spell one by an escape, and a host may use them for bytes that are no UTF-8. A
text without surrogates is a `String` (`toString?_ofString`, `ofString_of_toString?`); what has been
checked is kept as a `String`, what anybody may hand in as a `Text`.
-/

namespace SessionKeeper

/-- A Unicode scalar value, or a surrogate that stands alone. -/
inductive CodePoint where
  | scalar (c : Char)
  /-- The surrogate U+D800 + `offset`. -/
  | surrogate (offset : Fin 2048)
deriving DecidableEq, Repr, Inhabited

namespace CodePoint

def toNat : CodePoint → Nat
  | scalar c => c.toNat
  | surrogate offset => 0xD800 + offset.val

/-- The character, unless the code point is a surrogate. -/
def scalar? : CodePoint → Option Char
  | scalar c => some c
  | surrogate _ => none

/-- The code point of a number below U+110000. -/
def ofNat (n : Nat) : CodePoint :=
  if range : 0xD800 ≤ n ∧ n < 0xE000 then surrogate ⟨n - 0xD800, by omega⟩
  else scalar (Char.ofNat n)

end CodePoint

/-- A sequence of code points, lone surrogates among them. -/
structure Text where
  points : List CodePoint
deriving DecidableEq, Repr, Inhabited

namespace Text

def ofString (string : String) : Text :=
  ⟨string.toList.map .scalar⟩

instance : Coe String Text where
  coe := ofString

instance : Append Text where
  append first second := ⟨first.points ++ second.points⟩

/-- The text as a string, if no code point is a surrogate. -/
def toString? (text : Text) : Option String :=
  (text.points.mapM CodePoint.scalar?).map String.ofList

def isEmpty (text : Text) : Bool := text.points.isEmpty

def startsWith (text start : Text) : Bool := start.points.isPrefixOf text.points

def endsWith (text finish : Text) : Bool := finish.points.isSuffixOf text.points

/-- Texts one after the other, with a separator between them. -/
def join (separator : Text) (texts : List Text) : Text :=
  ⟨separator.points.intercalate (texts.map (·.points))⟩

theorem toString?_ofString (string : String) : (ofString string).toString? = some string := by
  have spelled (cs : List Char) :
      (cs.map CodePoint.scalar).mapM CodePoint.scalar? = some cs := by
    induction cs with
    | nil => rfl
    | cons c rest ih => simp [CodePoint.scalar?, ih]
  simp [toString?, ofString, spelled]

/-- A string is spelled by one text only. -/
theorem ofString_of_toString? {text : Text} {string : String}
    (spelled : text.toString? = some string) : text = ofString string := by
  have points (ps : List CodePoint) (cs : List Char)
      (mapped : ps.mapM CodePoint.scalar? = some cs) : ps = cs.map .scalar := by
    induction ps generalizing cs with
    | nil => simp_all
    | cons p rest ih =>
      cases p with
      | surrogate offset => simp [CodePoint.scalar?] at mapped
      | scalar c =>
        simp only [List.mapM_cons, CodePoint.scalar?, Option.pure_def, Option.bind_eq_bind,
          Option.bind_some] at mapped
        cases tail : rest.mapM CodePoint.scalar? with
        | none => simp [tail] at mapped
        | some tailChars =>
          simp only [tail, Option.bind_some, Option.some.injEq] at mapped
          subst mapped
          simp [ih tailChars tail]
  cases text with
  | mk ps =>
    simp only [toString?, Option.map_eq_some_iff] at spelled
    obtain ⟨cs, mapped, rfl⟩ := spelled
    simp [ofString, points ps cs mapped]

/-- A text starts with what it continues. -/
theorem startsWith_iff {text start : Text} :
    text.startsWith start = true ↔ ∃ rest : Text, text = start ++ rest := by
  unfold startsWith
  rw [List.isPrefixOf_iff_prefix]
  constructor
  · rintro ⟨rest, same⟩
    exact ⟨⟨rest⟩, congrArg Text.mk same.symm⟩
  · rintro ⟨rest, rfl⟩
    exact ⟨rest.points, rfl⟩

theorem append_assoc (first second third : Text) :
    first ++ second ++ third = first ++ (second ++ third) :=
  congrArg Text.mk (List.append_assoc first.points second.points third.points)

/-- Different strings are different texts. -/
theorem ofString_inj {first second : String} : ofString first = ofString second ↔ first = second :=
  ⟨fun same => Option.some.inj (by rw [← toString?_ofString first, same, toString?_ofString]),
    fun same => by rw [same]⟩

end Text

end SessionKeeper
