import SessionKeeper.Binary64.Decimal
import SessionKeeper.Json.Lexeme
import SessionKeeper.Text.Quoted

/-! # Writing JSON

`Json.print` writes a document in ASCII: every other character is written as one or two numeric
escapes. `Json.display` shows a value inside a message, where a text at the top stands as it is and
texts further in stand between quotes.
-/

namespace SessionKeeper.Json

/-! ## Documents -/

/-- A numeric escape of four hexadecimal digits. -/
def unitEscape (n : Nat) : List Char := '\\' :: 'u' :: Text.hexDigits 4 n

def printChar (c : Char) : List Char :=
  if c == '\x22' then ['\\', '\x22']
  else if c == '\\' then ['\\', '\\']
  else if c == '\n' then ['\\', 'n']
  else if c == '\r' then ['\\', 'r']
  else if c == '\t' then ['\\', 't']
  else if c == '\x08' then ['\\', 'b']
  else if c == '\x0c' then ['\\', 'f']
  else if 0x20 ≤ c.toNat && c.toNat < 0x7F then [c]
  else if c.toNat < 0x10000 then unitEscape c.toNat
  else
    let beyond := c.toNat - 0x10000
    unitEscape (0xD800 + beyond / 0x400) ++ unitEscape (0xDC00 + beyond % 0x400)

def printPoint : CodePoint → List Char
  | .scalar c => printChar c
  | .surrogate offset => unitEscape (0xD800 + offset.val)

def printText (text : Text) : List Char :=
  '\x22' :: text.points.flatMap printPoint ++ ['\x22']

/-- A number; infinities and NaN by their literal names. -/
def printReal (value : Binary64) : List Char :=
  match value with
  | .nan => "NaN".toList
  | .infinite negative => (if negative then "-Infinity" else "Infinity").toList
  | .finite .. => value.toText.toList

mutual

def printChars : Json → List Char
  | null => "null".toList
  | bool value => (if value then "true" else "false").toList
  | int value => (toString value).toList
  | real value => printReal value
  | text value => printText value
  | list items => '[' :: printItems items ++ [']']
  | object members => '\x7b' :: printMembers members ++ ['\x7d']

def printItems : List Json → List Char
  | [] => []
  | [item] => printChars item
  | item :: rest => printChars item ++ ',' :: ' ' :: printItems rest

def printMembers : List (Text × Json) → List Char
  | [] => []
  | [(name, value)] => printText name ++ ':' :: ' ' :: printChars value
  | (name, value) :: rest =>
    printText name ++ ':' :: ' ' :: printChars value ++ ',' :: ' ' :: printMembers rest

end

def print (value : Json) : String := String.ofList (printChars value)

/-! ## Messages -/

mutual

/-- A value inside a message, a text between quotes. -/
def showQuoted : Json → String
  | null => "None"
  | bool value => if value then "True" else "False"
  | int value => toString value
  | real value => value.toText
  | text value => Text.quote value
  | list items => "[" ++ ", ".intercalate (showItems items) ++ "]"
  | object members => "\x7b" ++ ", ".intercalate (showMembers members) ++ "\x7d"

def showItems : List Json → List String
  | [] => []
  | item :: rest => showQuoted item :: showItems rest

def showMembers : List (Text × Json) → List String
  | [] => []
  | (name, value) :: rest =>
    (Text.quote name ++ ": " ++ showQuoted value) :: showMembers rest

end

/-- A value inside a message, a text as it is. -/
def display : Json → Text
  | text value => value
  | value => showQuoted value

end SessionKeeper.Json
