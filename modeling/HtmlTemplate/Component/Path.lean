import HtmlTemplate.Naming

/-!
# Paths

A `Path` is a row of parts, from the working directory or from the root of all files. Parts that are
empty or a single dot say nothing and are left out; a part of two dots stays. Joining a path to one
that starts at the root gives the latter. Of the slashes at the front one is kept, unless there are
exactly two.
-/

namespace HtmlTemplate.Component

/-- Where a path starts. -/
inductive Anchor
  /-- At the working directory. -/
  | here
  /-- At the root of all files. -/
  | top
  /-- At the root of all files, named by two slashes. -/
  | doubleTop
deriving DecidableEq, Repr

/-- Where a text with so many slashes at its front starts. -/
def Anchor.ofSlashes : Nat → Anchor
  | 0 => here
  | 2 => doubleTop
  | _ => top

/-- A path to a file or directory. -/
structure Path where
  anchor : Anchor
  parts : List String
deriving DecidableEq, Repr

namespace Path

/-- Whether a path starts at the root of all files. -/
def absolute (p : Path) : Bool := p.anchor != .here

/-- The path that a text denotes. -/
def ofString (s : String) : Path where
  anchor := .ofSlashes (s.toList.takeWhile (· == '/')).length
  parts := ((Naming.splitAt '/' s.toList).map String.ofList).filter fun p => p != "" && p != "."

/-- A path followed from another one. -/
def join (p q : Path) : Path :=
  if q.absolute then q else ⟨p.anchor, p.parts ++ q.parts⟩

/-- A path with the paths that texts denote followed from it one after another. -/
def joinAll (p : Path) (segments : List String) : Path :=
  segments.foldl (fun p s => p.join (ofString s)) p

/-- A path as text. -/
def text (p : Path) : String :=
  let body := String.intercalate "/" p.parts
  match p.anchor with
  | .here => if p.parts.isEmpty then "." else body
  | .top => "/" ++ body
  | .doubleTop => "//" ++ body

end Path

end HtmlTemplate.Component
