import SessionKeeper.Json.Basic
import SessionKeeper.Text.Digits

/-! # The lexemes of a JSON document

A document is split into punctuation, texts and plain values, each with the place where it begins.
The lexemes end with the end of the document or with the first fault, so that whoever reads them
meets the faults in the order of the document.
-/

namespace SessionKeeper.Json

inductive SyntaxProblem where
  | expectingValue
  | expectingName
  | expectingColon
  | expectingComma
  | extraData
  | unterminatedText
  | controlCharacter
  | badEscape
  | badUnicodeEscape
  | byteOrderMark
deriving DecidableEq, Repr

inductive ContainerKind where
  | list
  | object
deriving DecidableEq, Repr

inductive ReadFault where
  | misspelled (problem : SyntaxProblem) (position : Nat)
  | integerTooLong (digits : Nat)
  | nestedTooDeep (kind : ContainerKind)
deriving DecidableEq, Repr

/-- How numbers may be spelled: in a strict document the digits in front of a fraction or an
exponent are limited as those of an integer are. -/
inductive Dialect where
  | lenient
  | strict
deriving DecidableEq, Repr

/-- The fault lies inside a text, behind its opening quote. -/
def ReadFault.isInText : ReadFault → Bool
  | misspelled .unterminatedText _ => true
  | misspelled .controlCharacter _ => true
  | misspelled .badEscape _ => true
  | misspelled .badUnicodeEscape _ => true
  | _ => false

inductive Token where
  | openBrace
  | closeBrace
  | openBracket
  | closeBracket
  | colon
  | comma
  /-- A number or one of the literal names. -/
  | plain (value : Json)
  | text (value : Text)
  | finish

/-- A token or a fault, and the place where it begins. -/
structure Lexeme where
  position : Nat
  token : Except ReadFault Token

/-- The four characters that may stand between lexemes. -/
def isSpace (c : Char) : Bool :=
  c == ' ' || c == '\t' || c == '\n' || c == '\r'

/-! ## Texts -/

/-- What one character or escape contributes to a text: a character, or the UTF-16 unit that a
numeric escape names. -/
inductive Piece where
  | plain (c : Char)
  | unit (n : Nat)

/-- The character that follows a backslash, unless it is a `u`. -/
def escaped? (c : Char) : Option Char :=
  match c with
  | '\x22' => some '\x22'
  | '\\' => some '\\'
  | '/' => some '/'
  | 'b' => some '\x08'
  | 'f' => some '\x0c'
  | 'n' => some '\n'
  | 'r' => some '\r'
  | 't' => some '\t'
  | _ => none

def unit? (a b c d : Char) : Option Nat := do
  let a ← Text.hexValue? a
  let b ← Text.hexValue? b
  let c ← Text.hexValue? c
  let d ← Text.hexValue? d
  some (((a * 16 + b) * 16 + c) * 16 + d)

/-- Put the two units of a surrogate pair together; a surrogate without its partner stays alone. -/
def assemble : List Piece → List CodePoint
  | [] => []
  | .plain c :: rest => .scalar c :: assemble rest
  | .unit high :: .unit low :: rest =>
    if 0xD800 ≤ high && high < 0xDC00 && 0xDC00 ≤ low && low < 0xE000 then
      .scalar (Char.ofNat (0x10000 + (high - 0xD800) * 0x400 + (low - 0xDC00))) :: assemble rest
    else .ofNat high :: assemble (.unit low :: rest)
  | .unit n :: rest => .ofNat n :: assemble rest

/-- Read the inside of a text up to its closing quote. The text begins at `start`, the characters at
`position`. A numeric escape needs a character behind it. -/
def scanText (start position : Nat) :
    List Char → Except ReadFault (List Piece × Nat × List Char)
  | [] => .error (.misspelled .unterminatedText start)
  | '\\' :: 'u' :: a :: b :: c :: d :: rest =>
    match unit? a b c d, rest with
    | some n, _ :: _ =>
      (scanText start (position + 6) rest).map fun (pieces, tail) => (.unit n :: pieces, tail)
    | _, _ => .error (.misspelled .badUnicodeEscape (position + 1))
  | ['\\'] => .error (.misspelled .unterminatedText start)
  | '\\' :: c :: rest =>
    if c == 'u' then .error (.misspelled .badUnicodeEscape (position + 1))
    else
      match escaped? c with
      | some plain =>
        (scanText start (position + 2) rest).map fun (pieces, tail) =>
          (.plain plain :: pieces, tail)
      | none => .error (.misspelled .badEscape position)
  | c :: rest =>
    if c == '\x22' then .ok ([], position + 1, rest)
    else if c.toNat < 0x20 then .error (.misspelled .controlCharacter position)
    else
      (scanText start (position + 1) rest).map fun (pieces, tail) => (.plain c :: pieces, tail)

/-! ## Numbers -/

/-- The digits of a whole number without superfluous zeros, and what follows them. -/
def scanWhole? : List Char → Option (List Char × List Char)
  | '0' :: rest => some (['0'], rest)
  | c :: rest => if Text.isDigit c then some ((c :: rest).span Text.isDigit) else none
  | [] => none

/-- The digits behind a decimal point, if there is at least one. -/
def scanFraction : List Char → List Char × List Char
  | '.' :: rest =>
    match rest.span Text.isDigit with
    | ([], _) => ([], '.' :: rest)
    | split => split
  | source => ([], source)

def scanExponent? : List Char → Option (Int × List Char)
  | e :: rest =>
    if e == 'e' || e == 'E' then
      let (negative, body) := Text.splitSign rest
      match body.span Text.isDigit with
      | ([], _) => none
      | (digits, tail) =>
        some (Text.signed negative (Text.valueOfDigits (Text.digitValues digits)), tail)
    else none
  | [] => none

def scanNumber? (dialect : Dialect) (negative : Bool) (source : List Char) :
    Option (Except ReadFault Json × List Char) := do
  let (whole, rest) ← scanWhole? source
  let (fraction, rest) := scanFraction rest
  let exponent := scanExponent? rest
  let isInteger := fraction.isEmpty && exponent.isNone
  if (isInteger || dialect == .strict) && whole.length > Text.digitLimit then
    some (.error (.integerTooLong whole.length), rest)
  else
    let digits := Text.valueOfDigits (Text.digitValues (whole ++ fraction))
    if isInteger then some (.ok (.int (Text.signed negative digits)), rest)
    else
      let (power, rest) := exponent.getD (0, rest)
      some (.ok (.real (.ofDecimal negative digits (power - fraction.length))), rest)

/-! ## Documents -/

/-- The literal names and their values. -/
def literals : List (String × Json) :=
  [("null", .null), ("true", .bool true), ("false", .bool false), ("NaN", .real .nan),
    ("Infinity", .real (.infinite false)), ("-Infinity", .real (.infinite true))]

/-- What follows `start` at the beginning of `source`. -/
def after? : (start source : List Char) → Option (List Char)
  | [], source => some source
  | c :: start, d :: source => if c == d then after? start source else none
  | _ :: _, [] => none

/-- A literal name or a number at the beginning of a text. -/
def scanPlain? (dialect : Dialect) (source : List Char) :
    Option (Except ReadFault Json × List Char) :=
  let literal := literals.findSome? fun (name, value) =>
    (after? name.toList source).map fun rest => (.ok value, rest)
  match literal with
  | some found => some found
  | none =>
    match source with
    | '-' :: rest => scanNumber? dialect true rest
    | _ => scanNumber? dialect false source

def punctuation? (c : Char) : Option Token :=
  match c with
  | '\x7b' => some .openBrace
  | '\x7d' => some .closeBrace
  | '[' => some .openBracket
  | ']' => some .closeBracket
  | ':' => some .colon
  | ',' => some .comma
  | _ => none

/-- The first token of a text that begins with no space, the place behind it and what follows. -/
def scanToken (dialect : Dialect) (position : Nat) (source : List Char) :
    Except ReadFault (Token × Nat × List Char) :=
  match source with
  | [] => .ok (.finish, position, [])
  | c :: rest =>
    match punctuation? c with
    | some token => .ok (token, position + 1, rest)
    | none =>
      if c == '\x22' then
        (scanText position (position + 1) rest).map fun (pieces, tail) =>
          (.text ⟨assemble pieces⟩, tail)
      else
        match scanPlain? dialect source with
        | some (.ok value, tail) =>
          .ok (.plain value, position + (source.length - tail.length), tail)
        | some (.error fault, _) => .error fault
        | none => .error (.misspelled .expectingValue position)

/-- The lexemes of what is left of a document. Every token but the last takes a character, so
`budget`, one more than there are characters, is never used up. -/
def lexemesFrom (dialect : Dialect) : (budget position : Nat) → List Char → List Lexeme
  | 0, _, _ => []
  | budget + 1, position, source =>
    let spaces := source.takeWhile isSpace
    let start := position + spaces.length
    match scanToken dialect start (source.dropWhile isSpace) with
    | .error fault => [⟨start, .error fault⟩]
    | .ok (.finish, _) => [⟨start, .ok .finish⟩]
    | .ok (token, next, rest) => ⟨start, .ok token⟩ :: lexemesFrom dialect budget next rest

def lexemes (dialect : Dialect) (document : List Char) : List Lexeme :=
  lexemesFrom dialect (document.length + 1) 0 document

end SessionKeeper.Json
