/-! # Blank characters

Two sets of characters count as blank: the Unicode property `White_Space`, and that property
together with the four information separators U+001C to U+001F, which is the set that trimming a
text removes. A trimmed text does not end with a character of the set
(`getLast?_dropTrailing`), nor begin with one (`head?_trimBy`).
-/

namespace SessionKeeper.Text

/-- The Unicode property `White_Space`. -/
def isWhiteSpaceChar (c : Char) : Bool :=
  let n := c.toNat
  (0x9 ≤ n && n ≤ 0xD) || n == 0x20 || n == 0x85 || n == 0xA0 || n == 0x1680 ||
    (0x2000 ≤ n && n ≤ 0x200A) || n == 0x2028 || n == 0x2029 || n == 0x202F || n == 0x205F ||
    n == 0x3000

/-- A white space character or one of the four information separators. -/
def isBlankChar (c : Char) : Bool :=
  isWhiteSpaceChar c || (0x1C ≤ c.toNat && c.toNat ≤ 0x1F)

/-- Drop the elements of a class from the end of a list. -/
def dropTrailing {α : Type} (dropped : α → Bool) (items : List α) : List α :=
  (items.reverse.dropWhile dropped).reverse

/-- Drop the elements of a class from both ends of a list. -/
def trimBy {α : Type} (dropped : α → Bool) (items : List α) : List α :=
  dropTrailing dropped (items.dropWhile dropped)

/-- Trim blanks from both ends of a text. -/
def strip (text : String) : String :=
  String.ofList (trimBy isBlankChar text.toList)

/-- Drop every copy of one character from the end of a text. -/
def dropTrailingChar (dropped : Char) (text : String) : String :=
  String.ofList (dropTrailing (· == dropped) text.toList)

/-- Every character of the text is blank; true of the empty text. -/
def isBlank (text : String) : Bool :=
  text.toList.all isBlankChar

/-- What is left after dropping from the end does not end with a dropped element. -/
theorem getLast?_dropTrailing {α : Type} {dropped : α → Bool} {items : List α} {last : α}
    (ends : (dropTrailing dropped items).getLast? = some last) : dropped last = false := by
  rw [dropTrailing, List.getLast?_reverse] at ends
  simpa [ends] using List.head?_dropWhile_not dropped items.reverse

/-- Dropping from the end leaves an initial part of the list. -/
theorem dropTrailing_isPrefixOf {α : Type} (dropped : α → Bool) (items : List α) :
    dropTrailing dropped items <+: items := by
  rw [dropTrailing, ← List.reverse_suffix, List.reverse_reverse]
  exact List.dropWhile_suffix dropped

/-- A trimmed list does not begin with a dropped element. -/
theorem head?_trimBy {α : Type} {dropped : α → Bool} {items : List α} {first : α}
    (starts : (trimBy dropped items).head? = some first) : dropped first = false := by
  obtain ⟨rest, whole⟩ := dropTrailing_isPrefixOf dropped (items.dropWhile dropped)
  have same : (items.dropWhile dropped).head? = some first := by
    rw [← whole]
    cases kept : dropTrailing dropped (items.dropWhile dropped) with
    | nil => simp [trimBy, kept] at starts
    | cons head tail => simpa [trimBy, kept] using starts
  simpa [same] using List.head?_dropWhile_not dropped items

end SessionKeeper.Text
