import SessionKeeper.Dictionary
import SessionKeeper.Fault.Basic

/-! # Configuration files

A path is brought into a plain form before it is opened: components `.` and repeated or trailing
slashes are dropped, `..` stays, and the empty path is `.`. The host knows the plain path by its
bytes. The file is text in UTF-8 whose line ends are all read as line feeds, and must hold a JSON
object.
-/

namespace SessionKeeper

/-- Reads the file at a plain path, given by the bytes that the host knows it by. -/
abbrev FileReader := List UInt8 → Except FileProblem (List UInt8)

/-- The parts of a path between its slashes, without those that are empty or a single dot. -/
def pathParts {α : Type} [BEq α] (slash dot : α) (path : List α) : List (List α) :=
  (path.splitBy fun a b => a != slash && b != slash).filter fun part =>
    part != [slash] && part != [dot]

namespace Settings

/-- The slashes with which a plain path begins: two stay two, any other number is one. -/
def rootOf (path : Text) : Text :=
  match (path.points.takeWhile (· == .scalar '/')).length with
  | 0 => ""
  | 2 => "//"
  | _ => "/"

/-- The plain form of a path. -/
def plainPath (path : Text) : Text :=
  let root := rootOf path
  let parts := pathParts (.scalar '/') (.scalar '.') path.points
  if root.isEmpty && parts.isEmpty then "."
  else root ++ Text.join "/" (parts.map Text.mk)

/-- Read every line end as a line feed. -/
def unifyLineEnds : List Char → List Char
  | '\r' :: '\n' :: rest => '\n' :: unifyLineEnds rest
  | '\r' :: rest => '\n' :: unifyLineEnds rest
  | c :: rest => c :: unifyLineEnds rest
  | [] => []

/-- The members of the object that a document spells, each name once with its last value. -/
def valuesOfDocument (path : Text) (document : List Char) : Except Fault (List (Text × Json)) :=
  match Json.read document with
  | .ok (.object members) => .ok (Dictionary.overlay [] members)
  | .ok _ => .error (.configuration (.notAnObject path))
  | .error (.misspelled problem position) =>
    .error (.configuration (.malformed path document problem position))
  | .error (.integerTooLong digits) => .error (.foreign (.integerTooLong digits))
  | .error (.nestedTooDeep kind) => .error (.foreign (.nestedTooDeep kind))

/-- The bytes that the host knows a plain path by. -/
def hostPath (location : Text) : Except Fault (List UInt8) :=
  match Utf8.encodeHost location with
  | .error fault => .error (.foreign (.unencodable fault))
  | .ok bytes => if bytes.contains 0 then .error (.foreign .nullInPath) else .ok bytes

def valuesOfFile (files : FileReader) (path : Text) : Except Fault (List (Text × Json)) := do
  let location := plainPath path
  let known ← hostPath location
  match files known with
  | .error problem => .error (.configuration (.unreadable path location problem))
  | .ok bytes =>
    match Utf8.decode bytes with
    | .error fault => .error (.foreign (.notUtf8 fault))
    | .ok content => valuesOfDocument path (unifyLineEnds content.toList)

end Settings

/-! ## Trees of files -/

/-- The files and directories of a host by the parts of their paths, counted from the root; a
directory without a content is listed itself. -/
structure FileTree where
  entries : List (List (List UInt8) × Option (List UInt8))
  /-- The directory that relative paths begin at. -/
  home : List (List UInt8)

namespace FileTree

inductive Node where
  | directory
  | file (content : List UInt8)

def pathLimit : Nat := 4095

def partLimit : Nat := 255

def partsOf (path : List UInt8) : List (List UInt8) := pathParts 0x2F 0x2E path

def node? (tree : FileTree) (parts : List (List UInt8)) : Option Node :=
  match tree.entries.lookup parts with
  | some (some content) => some (.file content)
  | some none => some .directory
  | none =>
    if (tree.home :: tree.entries.map (·.1)).any parts.isPrefixOf then some .directory else none

/-- Follow the parts of a path from a directory, whose own parts are `reached`, the last one first.
The directory above the root is the root. -/
def follow (tree : FileTree) (reached : List (List UInt8)) :
    List (List UInt8) → Except FileProblem (List UInt8)
  | [] => .error .isADirectory
  | part :: rest =>
    if part == [0x2E, 0x2E] then follow tree reached.tail rest
    else if part.length > partLimit then .error .nameTooLong
    else
      match tree.node? (part :: reached).reverse with
      | none => .error .missing
      | some .directory => follow tree (part :: reached) rest
      | some (.file content) => if rest.isEmpty then .ok content else .error .notADirectory

def read (tree : FileTree) : FileReader := fun path =>
  if path.length > pathLimit then .error .nameTooLong
  else
    tree.follow (if path.head? == some 0x2F then [] else tree.home.reverse) (partsOf path)

end FileTree

end SessionKeeper
