import SessionKeeper.Json.Reader
import Mathlib.Data.List.Chain

/-! # The grammar of strict documents

What a document from the network has to look like, said without a reader: characters spell tokens,
between which spaces may stand (`Json.Lexes`), and tokens derive a value (`Json.Derives`). A
document of a value (`Json.Document`) is one that does both; a strict one (`Json.StrictDocument`)
keeps to the limits of depth and of texts as well. The names of `NaN` and of the infinities count as
values; the digits in front of a fraction or an exponent are limited.
-/

namespace SessionKeeper.Json

/-! ## Characters -/

/-- How the pieces of a text are written between its quotes. -/
inductive Inscribes : List Piece → List Char → Prop
  | nil : Inscribes [] []
  | plain {c : Char} {pieces : List Piece} {written : List Char} (visible : 0x20 ≤ c.toNat)
      (quote : c ≠ '\x22') (backslash : c ≠ '\\') (rest : Inscribes pieces written) :
    Inscribes (.plain c :: pieces) (c :: written)
  | escaped {mark c : Char} {pieces : List Piece} {written : List Char}
      (known : escaped? mark = some c) (rest : Inscribes pieces written) :
    Inscribes (.plain c :: pieces) ('\\' :: mark :: written)
  | unit {a b c d : Char} {n : Nat} {pieces : List Piece} {written : List Char}
      (known : unit? a b c d = some n) (rest : Inscribes pieces written) :
    Inscribes (.unit n :: pieces) ('\\' :: 'u' :: a :: b :: c :: d :: written)

/-- Digits, at least one. -/
def AreDigits (digits : List Char) : Prop :=
  digits ≠ [] ∧ ∀ c ∈ digits, Text.isDigit c = true

/-- The digits of a whole number: zero, or digits that do not begin with a zero. -/
def IsWhole (digits : List Char) : Prop :=
  digits = ['0'] ∨ AreDigits digits ∧ digits.head? ≠ some '0'

/-- How a fraction is written, if there is one. -/
inductive IsFraction : List Char → List Char → Prop
  | none : IsFraction [] []
  | point {digits : List Char} (digital : AreDigits digits) : IsFraction digits ('.' :: digits)

/-- How an exponent is written, if there is one. -/
inductive IsExponent : Int → List Char → Prop
  | none : IsExponent 0 []
  | power {mark : Char} {negative : Bool} {sign digits : List Char}
      (marked : mark = 'e' ∨ mark = 'E')
      (signed : (negative, sign) ∈ [(false, []), (false, ['+']), (true, ['-'])])
      (digital : AreDigits digits) :
    IsExponent (Text.signed negative (Text.valueOfDigits (Text.digitValues digits)))
      (mark :: sign ++ digits)

/-- How a number is written behind its sign. -/
inductive IsNumeral (negative : Bool) : Json → List Char → Prop
  | integer {whole : List Char} (proper : IsWhole whole)
      (bounded : whole.length ≤ Text.digitLimit) :
    IsNumeral negative
      (.int (Text.signed negative (Text.valueOfDigits (Text.digitValues whole)))) whole
  | real {whole fraction point exponent : List Char} {power : Int} (proper : IsWhole whole)
      (bounded : whole.length ≤ Text.digitLimit) (behind : IsFraction fraction point)
      (scaled : IsExponent power exponent) (broken : fraction ≠ [] ∨ exponent ≠ []) :
    IsNumeral negative
      (.real (.ofDecimal negative (Text.valueOfDigits (Text.digitValues (whole ++ fraction)))
        (power - fraction.length))) (whole ++ point ++ exponent)

/-- How a token is written. -/
inductive IsSpelled : Token → List Char → Prop
  | punctuation {c : Char} {token : Token} (known : punctuation? c = some token) :
    IsSpelled token [c]
  | literal {name : String} {value : Json} (known : (name, value) ∈ literals) :
    IsSpelled (.plain value) name.toList
  | number {value : Json} {written : List Char} (numeral : IsNumeral false value written) :
    IsSpelled (.plain value) written
  | negative {value : Json} {written : List Char} (numeral : IsNumeral true value written) :
    IsSpelled (.plain value) ('-' :: written)
  | text {pieces : List Piece} {written : List Char} (inside : Inscribes pieces written) :
    IsSpelled (.text ⟨assemble pieces⟩) ('\x22' :: written ++ ['\x22'])

/-- Tokens with spaces around them, up to the end of the document. -/
inductive Lexes : List Token → List Char → Prop
  | finish {spaces : List Char} (blank : ∀ c ∈ spaces, isSpace c = true) : Lexes [.finish] spaces
  | token {spaces written rest : List Char} {token : Token} {tokens : List Token}
      (blank : ∀ c ∈ spaces, isSpace c = true) (spelled : IsSpelled token written)
      (more : Lexes tokens rest) : Lexes (token :: tokens) (spaces ++ written ++ rest)

/-! ## Tokens -/

/-- What a stretch of tokens can stand for. -/
inductive Phrase where
  | value (value : Json)
  /-- Values with commas between them, at least one. -/
  | items (items : List Json)
  /-- Names with values, with commas between them, at least one. -/
  | members (members : List (Text × Json))

inductive Derives : Phrase → List Token → Prop
  | plain (value : Json) : Derives (.value value) [.plain value]
  | text (text : Text) : Derives (.value (.text text)) [.text text]
  | emptyList : Derives (.value (.list [])) [.openBracket, .closeBracket]
  | list {items : List Json} {tokens : List Token} (inside : Derives (.items items) tokens) :
    Derives (.value (.list items)) (.openBracket :: tokens ++ [.closeBracket])
  | emptyObject : Derives (.value (.object [])) [.openBrace, .closeBrace]
  | object {members : List (Text × Json)} {tokens : List Token}
      (inside : Derives (.members members) tokens) :
    Derives (.value (.object members)) (.openBrace :: tokens ++ [.closeBrace])
  | item {item : Json} {tokens : List Token} (only : Derives (.value item) tokens) :
    Derives (.items [item]) tokens
  | nextItem {items : List Json} {item : Json} {tokens more : List Token}
      (before : Derives (.items items) tokens) (last : Derives (.value item) more) :
    Derives (.items (items ++ [item])) (tokens ++ .comma :: more)
  | member {name : Text} {value : Json} {tokens : List Token}
      (only : Derives (.value value) tokens) :
    Derives (.members [(name, value)]) (.text name :: .colon :: tokens)
  | nextMember {members : List (Text × Json)} {name : Text} {value : Json}
      {tokens more : List Token} (before : Derives (.members members) tokens)
      (last : Derives (.value value) more) :
    Derives (.members (members ++ [(name, value)]))
      (tokens ++ .comma :: .text name :: .colon :: more)

/-- A document of a value. -/
def Document (value : Json) (document : List Char) : Prop :=
  ∃ tokens, Derives (.value value) tokens ∧ Lexes (tokens ++ [.finish]) document

/-- A document from the network: its value is not nested too deep and holds no lone surrogate. -/
def StrictDocument (value : Json) (document : String) : Prop :=
  Document value document.toList ∧ value.depth ≤ depthLimit ∧ value.isScalar = true

/-! ## Nesting -/

theorem depthOfItems_append (items more : List Json) :
    depthOfItems (items ++ more) = max (depthOfItems items) (depthOfItems more) := by
  induction items with
  | nil => simp [depthOfItems]
  | cons item items ih => rw [List.cons_append, depthOfItems, depthOfItems, ih, max_assoc]

theorem depthOfMembers_append (members more : List (Text × Json)) :
    depthOfMembers (members ++ more) = max (depthOfMembers members) (depthOfMembers more) := by
  induction members with
  | nil => simp [depthOfMembers]
  | cons member members ih =>
    rw [List.cons_append, depthOfMembers, depthOfMembers, ih, max_assoc]

theorem depth_list {items : List Json} (some : items ≠ []) :
    depth (.list items) = depthOfItems items + 1 := by
  cases items with
  | nil => exact absurd rfl some
  | cons item items => rw [depth, depthOfItems]

theorem depth_object {members : List (Text × Json)} (some : members ≠ []) :
    depth (.object members) = depthOfMembers members + 1 := by
  cases members with
  | nil => exact absurd rfl some
  | cons member members => rw [depth, depthOfMembers]

/-! ## Plain values stand apart -/

def Token.isPlain : Token → Bool
  | plain _ => true
  | _ => false

/-- No plain value follows another one at once. -/
def AreApart (tokens : List Token) : Prop :=
  tokens.IsChain fun first second => first.isPlain = false ∨ second.isPlain = false

theorem AreApart.join {tokens more : List Token} {token : Token} (first : AreApart tokens)
    (between : token.isPlain = false) (second : AreApart more) :
    AreApart (tokens ++ token :: more) := by
  refine List.isChain_append.mpr ⟨first, ?_, ?_⟩
  · refine List.isChain_cons.mpr ⟨fun next _ => .inl between, second⟩
  · rintro last _ next start
    obtain rfl := Option.some.inj start
    exact .inr between

theorem areApart_nil : AreApart [] := .nil

theorem areApart_singleton (token : Token) : AreApart [token] := .singleton token

theorem Derives.areApart {phrase : Phrase} {tokens : List Token} (derives : Derives phrase tokens) :
    AreApart tokens := by
  induction derives with
  | plain value => exact areApart_singleton _
  | text text => exact areApart_singleton _
  | emptyList | emptyObject => exact areApart_nil.join rfl (areApart_singleton _)
  | list inside ih | object inside ih =>
    exact areApart_nil.join rfl (ih.join rfl areApart_nil)
  | item only ih => exact ih
  | nextItem before last ihBefore ihLast => exact ihBefore.join rfl ihLast
  | member only ih => exact areApart_nil.join rfl (areApart_nil.join rfl ih)
  | nextMember before last ihBefore ihLast =>
    exact ihBefore.join rfl (areApart_nil.join rfl (areApart_nil.join rfl ihLast))

end SessionKeeper.Json
