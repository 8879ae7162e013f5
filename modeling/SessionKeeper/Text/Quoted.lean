import SessionKeeper.Text.Basic
import SessionKeeper.Text.Printable

/-! # Quoted text

How a text is shown inside a message: between single quotes, or between double quotes when it holds
a single quote and no double one, with escapes for the quote, the backslash, line breaks, tabs and
everything that is not printable. A quoted text holds no surrogate, so it is a `String`.
-/

namespace SessionKeeper.Text

/-- The `width` lowest hexadecimal digits of a number, in lower case. -/
def hexDigits (width n : Nat) : List Char :=
  (List.range width).reverse.map fun place =>
    let digit := n / Nat.pow 16 place % 16
    Char.ofNat (if digit < 10 then 0x30 + digit else 0x57 + digit)

/-- An escape by number: two, four or eight hexadecimal digits, the fewest that suffice. -/
def numericEscape (n : Nat) : List Char :=
  if n < 0x100 then '\\' :: 'x' :: hexDigits 2 n
  else if n < 0x10000 then '\\' :: 'u' :: hexDigits 4 n
  else '\\' :: 'U' :: hexDigits 8 n

def quoteChar (quoteMark : Char) (c : Char) : List Char :=
  if c == quoteMark || c == '\\' then ['\\', c]
  else if c == '\n' then ['\\', 'n']
  else if c == '\r' then ['\\', 'r']
  else if c == '\t' then ['\\', 't']
  else if isPrintable c then [c]
  else numericEscape c.toNat

/-- One code point of a quoted text; a lone surrogate is not printable. -/
def quotePoint (quoteMark : Char) : CodePoint → List Char
  | .scalar c => quoteChar quoteMark c
  | .surrogate offset => numericEscape (0xD800 + offset.val)

/-- Single quotes, unless the text holds one of these and no double quote. -/
def quoteMarkFor (text : Text) : Char :=
  if text.points.contains (.scalar '\x27') && !text.points.contains (.scalar '\x22') then '\x22'
  else '\x27'

def quote (text : Text) : String :=
  let mark := quoteMarkFor text
  String.ofList (mark :: text.points.flatMap (quotePoint mark) ++ [mark])

/-- One code point as a terminal can show it. -/
def plainPoint : CodePoint → List Char
  | .scalar c => [c]
  | .surrogate offset => numericEscape (0xD800 + offset.val)

/-- A text with an escape in the place of every lone surrogate. -/
def toPlain (text : Text) : String :=
  String.ofList (text.points.flatMap plainPoint)

end SessionKeeper.Text
