import HtmlTemplate.Script.Program

/-!
# Places of statements

What the grammar leaves open about where statements may stand: statements that leave a function or
a loop stand inside one, blocks nest only so deep, and names are declared before they are used and
where they exist. `isWellPlaced` checks a whole program.
-/

namespace HtmlTemplate.Script.Placement

/-- What surrounds a statement. -/
structure Surroundings where
  inFunction : Bool := false
  inLoop : Bool := false
  /-- How many blocks that have to be left in order are open. -/
  depth : Nat := 0

/-- How many blocks that have to be left in order may be open in a function. -/
def depthLimit : Nat := 20

/-- The surroundings in a block that has to be left in order. -/
def Surroundings.deeper (s : Surroundings) (levels : Nat) : Surroundings :=
  { s with depth := s.depth + levels }

/-- The surroundings in the body of a loop. -/
def Surroundings.loop (s : Surroundings) : Surroundings :=
  { s with inLoop := true, depth := s.depth + 1 }

/-- Whether blocks do not nest too deep. -/
def Surroundings.fits (s : Surroundings) : Bool := s.depth ≤ depthLimit

/-- Whether each name is declared before it is mentioned. -/
def declaredFirst : List String → List Mention → Bool
  | _, [] => true
  | seen, m :: ms =>
    (match m with
      | .global n => !seen.contains n
      | .enclosing n => !seen.contains n
      | _ => true) && declaredFirst (match m with
        | .read n => n :: seen
        | .bound n => n :: seen
        | _ => seen) ms

/-- Whether the names of a scope are declared as they may be, with its parameters and the names of
the functions around it. -/
def declarationsFit (params : List String) (outer : List String) (isFunction : Bool)
    (mentions : List Mention) : Bool :=
  let away := enclosingNames mentions
  declaredFirst params mentions && (isFunction || away.isEmpty) && away.all outer.contains &&
    !(globalNames mentions).any away.contains

/-- Whether no name is bound inside a note. -/
def noteFits (note : Expr) : Bool := (boundNames (note.mentions false)).isEmpty

mutual

/-- Whether a statement and all in it are well placed; `outer` are the names of the functions
around it, the one it stands in included. -/
def fits (s : Surroundings) (outer : List String) : Statement → Bool
  | .give _ => s.inFunction
  | .stop => s.inLoop
  | .skip => s.inLoop
  | .choose _ yes no => allFit s outer yes && allFit s outer no
  | .loop _ body after => s.loop.fits && allFit s.loop outer body && allFit s outer after
  | .each _ _ body after => s.loop.fits && allFit s.loop outer body && allFit s outer after
  | .within entered body =>
    let inner := s.deeper entered.length
    inner.fits && allFit inner outer body
  | .annotate _ _ note _ => noteFits note
  | .define _ _ params notes body =>
    let mentions := blockMentions body
    let own := (params.names ++ boundNames mentions).filter
      fun n => !(globalNames mentions).contains n
    notes.all noteFits && declarationsFit params.names outer true mentions &&
      allFit { inFunction := true }
        (own ++ outer.filter fun n => !(globalNames mentions).contains n) body
  | .defineClass _ _ body => allFit {} outer body
  | .guarded body handlers after always =>
    let s := if always.isEmpty then s else s.deeper 1
    let inner := if handlers.isEmpty then s else s.deeper 1
    inner.fits && allFit inner outer body && handlersFit (s.deeper 2) outer handlers &&
      allFit s outer after && allFit s outer always
  | .load _ names? => names?.isSome || !s.inFunction
  | _ => true

/-- Whether the statements of a block are well placed. -/
def allFit (s : Surroundings) (outer : List String) : List Statement → Bool
  | [] => true
  | t :: ts => fits s outer t && allFit s outer ts

/-- Whether the statements of handlers are well placed. -/
def handlersFit (s : Surroundings) (outer : List String) :
    List (Option Expr × Option String × List Statement) → Bool
  | [] => true
  | (_, _, body) :: rest => s.fits && allFit s outer body && handlersFit s outer rest

end

/-- Whether the statements of a program are well placed. -/
def isWellPlaced (body : List Statement) : Bool :=
  declarationsFit [] [] false (blockMentions body) && allFit {} [] body

end HtmlTemplate.Script.Placement
