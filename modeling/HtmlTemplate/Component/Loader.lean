import HtmlTemplate.Bindings
import HtmlTemplate.Component.FileTree
import HtmlTemplate.Diagnostic

/-!
# Loaders

A `Loader` finds the sources of components by name: in a directory, in a table, in the first of
several loaders that has one, or however a host finds them. In a directory the dots of a name
separate directories, and the source is either in a file of that name or in the index file of a
directory of that name. `Loader.list?` lists what a loader has.
-/

namespace HtmlTemplate.Component

open HtmlTemplate.Text

/-- The source of a component, and the file that it was read from. -/
structure Source where
  text : String
  file? : Option String := none
deriving DecidableEq, Repr

/-- Why a loader gives no source. -/
inductive LoadError
  | notFound (name : String) (searched : List String) (hint? : Option String)
  | file (e : FileError)
deriving DecidableEq, Repr

/-- Where sources of components come from. -/
inductive Loader
  /-- The files below a directory. -/
  | directory (root : Path) (encoding? : Option Encoding)
  | table (sources : Bindings String)
  /-- A table that does not tell what it has. -/
  | unlisted (sources : Bindings String)
  /-- Each loader is asked in turn. -/
  | firstOf (loaders : List Loader)
  /-- A loader of the host, which finds and lists components in a way of its own. -/
  | custom (find : FileTree → String → Except LoadError Source)
    (names? : FileTree → Except FileError (Option (List String)))

/-- The problem that a component has no source. -/
def notFoundProblem (name : String) (tag? : Option String) (searched : List String)
    (hint? : Option String) (stack : List String) : Diagnostic where
  problem := .componentNotFound name tag? searched
  stack := stack
  hint? := hint?

namespace Loader

/-- The files that may hold the source of a component, in the order in which they are tried. -/
def candidates (root : Path) (name : String) : List Path :=
  let segments := (Naming.splitAt '.' name.toList).map String.ofList
  let dirs := segments.dropLast
  let last := segments.getLastD ""
  [root.joinAll (dirs ++ [last ++ ".html"]), root.joinAll (dirs ++ [last, "index.html"])]

/-- The first candidate that exists, read as text. -/
def readFirst (t : FileTree) (encoding? : Option Encoding) (name : String)
    (searched : List String) : List Path → Except LoadError Source
  | [] => .error (.notFound name searched none)
  | p :: ps =>
    match t.read encoding? p with
    | .ok text => .ok ⟨text, some p.text⟩
    | .error .missing => readFirst t encoding? name searched ps
    | .error e => .error (.file e)

/-- Texts in the order of their characters. -/
def sortTexts (names : List String) : List String :=
  names.mergeSort fun a b => decide (a ≤ b)

/-- What may help when a table lacks a name. -/
def tableHint (name : String) (names : List String) : Option String :=
  match closest name names with
  | some found => some ("Did you mean '" ++ found ++ "'?")
  | none =>
    if names.isEmpty then none
    else some ("Available: " ++ String.intercalate ", " (names.take 10) ++
      (if 10 < names.length then " ... (" ++ toString names.length ++ " total)" else ""))

/-- The source that a table has for a name. -/
def lookIn (sources : Bindings String) (name : String) : Except LoadError Source :=
  match sources.get? name with
  | some text => .ok ⟨text, none⟩
  | none => .error (.notFound name [] (tableHint name (sortTexts sources.names)))

mutual

/-- The source of a component. -/
def source (t : FileTree) (name : String) : Loader → Except LoadError Source
  | .directory root encoding? =>
    let paths := candidates root name
    readFirst t encoding? name (paths.map Path.text) paths
  | .table sources => lookIn sources name
  | .unlisted sources => lookIn sources name
  | .firstOf loaders => sourceOfFirst t name [] loaders
  | .custom find _ => find t name

/-- The source of a component from the first loader that has it; `searched` holds the places where
earlier ones looked. -/
def sourceOfFirst (t : FileTree) (name : String) (searched : List String) :
    List Loader → Except LoadError Source
  | [] => .error (.notFound name searched none)
  | l :: ls =>
    match source t name l with
    | .error (.notFound _ more _) => sourceOfFirst t name (searched ++ more) ls
    | result => result

end

/-- The stem of a file name of letters, digits, underscores and hyphens with the ending of a
source. -/
def stem? (file : String) : Option String :=
  let cs := file.toList
  let cs := if cs.getLast? == some '\n' then cs.dropLast else cs
  let ending := ".html".toList
  if ending.isSuffixOf cs then
    let stem := cs.take (cs.length - ending.length)
    if !stem.isEmpty && stem.all (fun c => isWordChar c || c == '-') then
      some (String.ofList stem)
    else none
  else none

/-- The name of the component whose source is in a file, given by its parts below the root. -/
def nameOf? (parts : List String) : Option String :=
  let dirs := parts.dropLast
  (stem? (parts.getLastD "")).map fun stem =>
    if stem == "index" && !dirs.isEmpty then String.intercalate "." dirs
    else String.intercalate "." (dirs ++ [stem])

/-- The first occurrences of names. -/
def distinct (names : List String) : List String :=
  names.foldl (fun found n => if found.contains n then found else found ++ [n]) []

mutual

/-- The names of the components that a loader has, unless it does not tell. -/
def list? (t : FileTree) : Loader → Except FileError (Option (List String))
  | .directory root _ => do
    if ← t.isDirectory root then
      return some (sortTexts (distinct ((t.walk root).filterMap nameOf?)))
    else return some []
  | .table sources => .ok (some (sortTexts sources.names))
  | .unlisted _ => .ok none
  | .firstOf loaders => return some (sortTexts (distinct (← listAll t loaders)))
  | .custom _ names? => names? t

/-- The names of the components that several loaders have. -/
def listAll (t : FileTree) : List Loader → Except FileError (List String)
  | [] => .ok []
  | l :: ls => return ((← list? t l).getD []) ++ (← listAll t ls)

end

end Loader

end HtmlTemplate.Component
