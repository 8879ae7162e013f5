import SessionKeeper.Json.Lexeme

/-! # Reading JSON

The reader takes one lexeme after the other and keeps the containers that are still open.
`Json.read` reads a document and names its first fault. `Json.readStrict?` is for documents from the
network: it refuses lone surrogates, long numbers and deep nesting.
-/

namespace SessionKeeper.Json

/-- A container that is still open: what it holds, the newest first, and for an object the name
whose value is being read. -/
inductive OpenContainer where
  | list (items : List Json)
  | object (members : List (Text × Json)) (name : Text)

/-- What the reader expects next. -/
inductive Expectation where
  | value (outer : List OpenContainer)
  | valueOrClose (outer : List OpenContainer)
  | name (members : List (Text × Json)) (outer : List OpenContainer)
  | nameOrClose (outer : List OpenContainer)
  | colon (members : List (Text × Json)) (name : Text) (outer : List OpenContainer)
  /-- Behind a value: a comma, the end of its container, or the end of the document. -/
  | delimiter (read : Json) (outer : List OpenContainer)
  | nothing (read : Json)

/-- How many containers may be open at once. Reading goes one call deeper with each of them; calls
may be a thousand deep, and ten are open already where a document is read. -/
def nestingLimit : Nat := 990

def openContainer (kind : ContainerKind) (outer : List OpenContainer) :
    Except ReadFault Expectation :=
  if outer.length ≥ nestingLimit then .error (.nestedTooDeep kind)
  else
    match kind with
    | .list => .ok (.valueOrClose outer)
    | .object => .ok (.nameOrClose outer)

def takeValue (outer : List OpenContainer) (lexeme : Lexeme) : Except ReadFault Expectation :=
  match lexeme.token with
  | .ok (.plain value) => .ok (.delimiter value outer)
  | .ok (.text value) => .ok (.delimiter (.text value) outer)
  | .ok .openBracket => openContainer .list outer
  | .ok .openBrace => openContainer .object outer
  | .ok _ => .error (.misspelled .expectingValue lexeme.position)
  | .error fault => .error fault

def takeName (members : List (Text × Json)) (outer : List OpenContainer) (lexeme : Lexeme) :
    Except ReadFault Expectation :=
  match lexeme.token with
  | .ok (.text name) => .ok (.colon members name outer)
  | .ok _ => .error (.misspelled .expectingName lexeme.position)
  | .error fault =>
    if fault.isInText then .error fault
    else .error (.misspelled .expectingName lexeme.position)

def takeDelimiter (read : Json) (outer : List OpenContainer) (lexeme : Lexeme) :
    Except ReadFault Expectation :=
  match outer, lexeme.token with
  | [], .ok .finish => .ok (.nothing read)
  | [], _ => .error (.misspelled .extraData lexeme.position)
  | .list items :: outer, .ok .comma => .ok (.value (.list (read :: items) :: outer))
  | .list items :: outer, .ok .closeBracket =>
    .ok (.delimiter (.list (read :: items).reverse) outer)
  | .object members name :: outer, .ok .comma => .ok (.name ((name, read) :: members) outer)
  | .object members name :: outer, .ok .closeBrace =>
    .ok (.delimiter (.object ((name, read) :: members).reverse) outer)
  | _, _ => .error (.misspelled .expectingComma lexeme.position)

def take (expected : Expectation) (lexeme : Lexeme) : Except ReadFault Expectation :=
  match expected with
  | .value outer => takeValue outer lexeme
  | .valueOrClose outer =>
    match lexeme.token with
    | .ok .closeBracket => .ok (.delimiter (.list []) outer)
    | _ => takeValue (.list [] :: outer) lexeme
  | .name members outer => takeName members outer lexeme
  | .nameOrClose outer =>
    match lexeme.token with
    | .ok .closeBrace => .ok (.delimiter (.object []) outer)
    | _ => takeName [] outer lexeme
  | .colon members name outer =>
    match lexeme.token with
    | .ok .colon => .ok (.value (.object members name :: outer))
    | _ => .error (.misspelled .expectingColon lexeme.position)
  | .delimiter read outer => takeDelimiter read outer lexeme
  | .nothing _ => .error (.misspelled .extraData lexeme.position)

/-- The value of a document in a dialect, or its first fault. -/
def readAs (dialect : Dialect) (document : List Char) : Except ReadFault Json :=
  if document.head? == some (Char.ofNat 0xFEFF) then .error (.misspelled .byteOrderMark 0)
  else
    match (lexemes dialect document).foldlM take (.value []) with
    | .ok (.nothing value) => .ok value
    | .ok _ => .error (.misspelled .expectingValue document.length)
    | .error fault => .error fault

def read (document : List Char) : Except ReadFault Json := readAs .lenient document

/-- The most containers with a content that may enclose one another in a document from the
network. -/
def depthLimit : Nat := 200

/-- The value of a document from the network. -/
def readStrict? (document : String) : Option Json :=
  match readAs .strict document.toList with
  | .ok value => if value.depth ≤ depthLimit && value.isScalar then some value else none
  | .error _ => none

/-! ## The text of a fault -/

def SyntaxProblem.message : SyntaxProblem → String
  | expectingValue => "Expecting value"
  | expectingName => "Expecting property name enclosed in double quotes"
  | expectingColon => "Expecting ':' delimiter"
  | expectingComma => "Expecting ',' delimiter"
  | extraData => "Extra data"
  | unterminatedText => "Unterminated string starting at"
  | controlCharacter => "Invalid control character at"
  | badEscape => "Invalid \\escape"
  | badUnicodeEscape => "Invalid \\uXXXX escape"
  | byteOrderMark => "Unexpected UTF-8 BOM (decode using utf-8-sig)"

/-- The place of a character as line and column, both counted from one. -/
def lineAndColumn (document : List Char) (position : Nat) : Nat × Nat :=
  let before := document.take position
  (before.count '\n' + 1, (before.reverse.takeWhile (· != '\n')).length + 1)

def syntaxMessage (document : List Char) (problem : SyntaxProblem) (position : Nat) : String :=
  let (line, column) := lineAndColumn document position
  s!"{problem.message}: line {line} column {column} (char {position})"

end SessionKeeper.Json
