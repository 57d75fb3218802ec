import HtmlTemplate.Component.Path
import HtmlTemplate.Text.Encoding

/-!
# File trees

The files below a working directory, as they are read by loaders: `FileTree.read` gives the text of
a file, and `FileTree.walk` lists all files below a directory. Line ends of every kind are read as
line feeds.
-/

namespace HtmlTemplate.Component

open HtmlTemplate.Text

/-- What stands at a place of a file tree. -/
inductive FileEntry
  | file (bytes : List UInt8)
  | directory
deriving DecidableEq, Repr

/-- The files and directories below the working directory, by their parts. -/
structure FileTree where
  entries : List (List String × FileEntry) := []
deriving Repr

/-- Why a file cannot be read. -/
inductive FileError
  /-- There is no such file. -/
  | missing
  | isDirectory
  /-- The bytes are no text in the encoding. -/
  | undecodable
  /-- The name holds a character that no name of a file may hold. -/
  | badName
  /-- The path or a part of it is too long. -/
  | longName
  | unknownEncoding
deriving DecidableEq, Repr

/-- A text with line feeds in the place of all line ends. -/
def unifyLines : List Char → List Char
  | [] => []
  | '\r' :: '\n' :: cs => '\n' :: unifyLines cs
  | '\r' :: cs => '\n' :: unifyLines cs
  | c :: cs => c :: unifyLines cs

namespace FileTree

/-- What stands at a place, where the working directory itself is a directory. -/
def at? (t : FileTree) (parts : List String) : Option FileEntry :=
  if parts.isEmpty then some .directory else t.entries.lookup parts

/-- The directories on the way to a place. -/
def ancestors (parts : List String) : List (List String) :=
  (List.range parts.length).filterMap fun n => if n = 0 then none else some (parts.take n)

/-- Puts a file or directory at a place, with the directories on the way to it. -/
def put (t : FileTree) (parts : List String) (e : FileEntry) : FileTree :=
  let missing := (ancestors parts).filter fun p => (t.entries.lookup p).isNone
  ⟨(t.entries.filter (·.1 != parts)) ++ missing.map (·, .directory) ++ [(parts, e)]⟩

/-- Removes what stands at a place and below it. -/
def remove (t : FileTree) (parts : List String) : FileTree :=
  ⟨t.entries.filter fun e => !parts.isPrefixOf e.1⟩

/-- The longest name that a file may have, in bytes. -/
def nameLimit : Nat := 255

/-- The longest path that a file may be reached by, in bytes. -/
def pathLimit : Nat := 4095

/-- Follows parts from a place; two dots lead to the directory around it. -/
def follow (t : FileTree) (here : List String) : List String → Except FileError (List String)
  | [] => .ok here
  | p :: ps =>
    if t.at? here != some .directory then .error .missing
    else if p == ".." then
      if here.isEmpty then .error .missing else follow t here.dropLast ps
    else if nameLimit < p.utf8ByteSize then .error .longName
    else if (t.at? (here ++ [p])).isNone then .error .missing
    else follow t (here ++ [p]) ps

/-- The place that a path leads to; nothing outside the working directory exists. -/
def resolve (t : FileTree) (p : Path) : Except FileError (List String) :=
  if p.parts.any fun part => part.toList.contains '\x00' then .error .badName
  else if pathLimit < p.text.utf8ByteSize then .error .longName
  else if p.absolute then .error .missing
  else t.follow [] p.parts

/-- The text of a file. -/
def read (t : FileTree) (encoding? : Option Encoding) (p : Path) : Except FileError String := do
  let place ← t.resolve p
  match t.at? place with
  | none => .error .missing
  | some .directory => .error .isDirectory
  | some (.file bytes) =>
    match encoding? with
    | none => .error .unknownEncoding
    | some e =>
      match e.decode? bytes with
      | some s => .ok (String.ofList (unifyLines s.toList))
      | none => .error .undecodable

/-- Whether a path leads to a directory; a path that is too long cannot be asked about. -/
def isDirectory (t : FileTree) (p : Path) : Except FileError Bool :=
  match t.resolve p with
  | .ok place => .ok (t.at? place == some .directory)
  | .error .longName => .error .longName
  | .error _ => .ok false

/-- The files below a directory, by their parts from there. -/
def walk (t : FileTree) (p : Path) : List (List String) :=
  match t.resolve p with
  | .error _ => []
  | .ok place =>
    t.entries.filterMap fun e =>
      match e.2 with
      | .directory => none
      | .file _ => if place.isPrefixOf e.1 then some (e.1.drop place.length) else none

end FileTree

end HtmlTemplate.Component
