import HtmlTemplate.Text.Quoted
import HtmlTemplate.Markup.Node

/-!
# Linked nodes

A tree that is edited in place: a `Store` holds nodes under numbers, each with the list of its
children and a link to its parent. The operations take nodes out of the tree, put them elsewhere
and replace them. `Store.tree?` reads off the tree below a node, which exists unless a node has been
put below itself.
-/

namespace HtmlTemplate.Markup

open HtmlTemplate.Text

/-- What a linked node is, its children aside. -/
inductive NodeKind
  | text (data : String)
  | comment (data : String)
  | directive (data : String)
  | element (tag : String) (attrs : Attrs)
  | fragment
  | blank
deriving DecidableEq, Repr

/-- Whether a node of the kind may have children. -/
def NodeKind.holdsChildren : NodeKind → Bool
  | .element .. => true
  | .fragment => true
  | _ => false

def NodeKind.isElement : NodeKind → Bool
  | .element .. => true
  | _ => false

/-- A linked node. -/
structure Cell where
  kind : NodeKind
  parent? : Option Nat := none
  children : List Nat := []

/-- Why an operation on linked nodes fails. -/
inductive LinkError
  /-- The node has no parent in which it could be replaced. -/
  | detached
  /-- A node of no kind has no copy. -/
  | uncopyable
  /-- The node is of a kind that the operation is not made for. -/
  | wrongKind
  /-- There is no such child. -/
  | noChild
  /-- The tree contains itself. -/
  | endless
deriving DecidableEq, Repr

/-- Linked nodes, numbered from zero. -/
structure Store where
  cells : Array Cell := #[]

/-- An operation on a store that may fail; a failure may come after a part of the work. -/
abbrev Linked (α : Type) := Store → Except LinkError α × Store

namespace Store

/-- The cell of a node. -/
def cell (s : Store) (n : Nat) : Cell := s.cells.getD n ⟨.blank, none, []⟩

def kind (s : Store) (n : Nat) : NodeKind := (s.cell n).kind

def parent? (s : Store) (n : Nat) : Option Nat := (s.cell n).parent?

def children (s : Store) (n : Nat) : List Nat := (s.cell n).children

/-- Changes the cell of a node. -/
def modify (s : Store) (n : Nat) (f : Cell → Cell) : Store := ⟨s.cells.modify n f⟩

def setParent (s : Store) (n : Nat) (p? : Option Nat) : Store :=
  s.modify n fun c => { c with parent? := p? }

def setChildren (s : Store) (n : Nat) (cs : List Nat) : Store :=
  s.modify n fun c => { c with children := cs }

/-- Adds a node without parent and children. -/
def new (s : Store) (k : NodeKind) : Nat × Store := (s.cells.size, ⟨s.cells.push ⟨k, none, []⟩⟩)

/-! ### Neighbours -/

/-- The place of a node among the children of its parent. -/
def index? (s : Store) (n : Nat) : Option Nat :=
  (s.parent? n).bind fun p => (s.children p).findIdx? (· == n)

/-- The children of the parent that follow a node. -/
def laterSiblings (s : Store) (n : Nat) : List Nat :=
  match s.parent? n with
  | none => []
  | some p => (s.children p).drop (match s.index? n with
    | some i => i + 1
    | none => 0)

def nextSibling? (s : Store) (n : Nat) : Option Nat := (s.laterSiblings n).head?

def previousSibling? (s : Store) (n : Nat) : Option Nat :=
  match s.parent? n, s.index? n with
  | some p, some (i + 1) => (s.children p)[i]?
  | _, _ => none

/-- The first element that is reached from a node by at most `fuel` steps to the next sibling. -/
def nextElementWithin (s : Store) : Nat → Nat → Option Nat
  | 0, _ => none
  | fuel + 1, n =>
    (s.nextSibling? n).bind fun m =>
      if (s.kind m).isElement then some m else nextElementWithin s fuel m

/-- The next sibling that is an element. -/
def nextElement? (s : Store) (n : Nat) : Option Nat := s.nextElementWithin s.cells.size n

/-- The number of nodes between a node and an ancestor, or above the node when `top` is none. At
most `fuel` links are followed. -/
def depthBelow (s : Store) (top : Nat) : Nat → Nat → Nat
  | 0, _ => 0
  | fuel + 1, n =>
    match s.parent? n with
    | none => 0
    | some p => if p = top then 0 else depthBelow s top fuel p + 1

/-- The number of nodes between a node and an ancestor. -/
def depth (s : Store) (n top : Nat) : Nat := s.depthBelow top s.cells.size n

/-! ### Changes -/

/-- Takes a node out of its parent. -/
def detach (s : Store) (n : Nat) : Store :=
  match s.parent? n with
  | none => s
  | some p =>
    let cs := s.children p
    (s.setChildren p (cs.eraseIdx ((s.index? n).getD (cs.length - 1)))).setParent n none

/-- Puts a detached node among the children of `p`, before the child at `place`. -/
def attachAt (s : Store) (p place n : Nat) : Store :=
  (s.setChildren p ((s.children p).take place ++ n :: (s.children p).drop place)).setParent n (some p)

/-- Where a position that counts from the end when negative falls in a list of the given length. -/
def clampPosition (length : Nat) (position : Int) : Nat :=
  if position < 0 then (length + position).toNat else min position.toNat length

/-- Moves a node below `p`, to the given position. -/
def insertChild (s : Store) (p : Nat) (position : Int) (n : Nat) : Store :=
  let s := s.detach n
  s.attachAt p (clampPosition (s.children p).length position) n

/-- Moves a node to the end of the children of `p`. -/
def appendChild (s : Store) (p n : Nat) : Store :=
  let s := s.detach n
  s.attachAt p (s.children p).length n

/-- Moves a node to the front of the children of `p`. -/
def prependChild (s : Store) (p n : Nat) : Store := s.insertChild p 0 n

/-- Moves nodes to the end of the children of `p`. -/
def appendAll (s : Store) (p : Nat) (ns : List Nat) : Store :=
  ns.foldl (fun s n => s.appendChild p n) s

/-- Takes all children out of a node. -/
def clear (s : Store) (p : Nat) : Store :=
  ((s.children p).foldl (fun s n => s.setParent n none) s).setChildren p []

/-- Replaces a node by others, which are taken out of their parents first, and tells their number.
A node among its own replacements has no place any more: they go before the last child. -/
def replaceWith (n : Nat) (ns : List Nat) : Linked Nat := fun s =>
  match s.parent? n with
  | none => (.error .detached, s)
  | some p =>
    let s := ns.foldl detach s
    let cs := s.children p
    let (place, stop) := match s.index? n with
      | some i => (i, i + 1)
      | none => (cs.length - 1, cs.length - 1)
    let s := s.setChildren p (cs.take place ++ ns ++ cs.drop stop)
    let s := ns.foldl (fun s m => s.setParent m (some p)) s
    (.ok ns.length, s.setParent n none)

/-- Replaces a node by its children. -/
def unwrap (n : Nat) : Linked Nat := fun s =>
  let cs := s.children n
  replaceWith n cs (s.clear n)

/-- Sets an attribute of an element. -/
def setAttr (n : Nat) (name value : String) : Linked Unit := fun s =>
  match s.kind n with
  | .element tag attrs =>
    (.ok (), s.modify n fun c => { c with kind := .element tag (Bindings.put attrs name value) })
  | _ => (.error .wrongKind, s)

/-- Sets the data of a text, comment or directive. -/
def setData (n : Nat) (data : String) : Linked Unit := fun s =>
  let set (k : NodeKind) : Except LinkError Unit × Store :=
    (.ok (), s.modify n fun c => { c with kind := k })
  match s.kind n with
  | .text _ => set (.text data)
  | .comment _ => set (.comment data)
  | .directive _ => set (.directive data)
  | _ => (.error .wrongKind, s)

/-- Runs a change that is made for nodes with children. -/
def onHolder (p : Nat) (change : Store → Store) : Linked Unit := fun s =>
  if (s.kind p).holdsChildren then (.ok (), change s) else (.error .wrongKind, s)

/-- The child at a path of positions below a node; negative ones count from the end. -/
def childAt (s : Store) : Nat → List Int → Except LinkError Nat
  | n, [] => .ok n
  | n, i :: path =>
    if !(s.kind n).holdsChildren then .error .wrongKind
    else
      let place := if i < 0 then (s.children n).length + i else i
      match if place < 0 then none else (s.children n)[place.toNat]? with
      | none => .error .noChild
      | some m => childAt s m path

/-! ### Trees -/

/-- Puts a kind and the trees below it together. -/
def assemble (k : NodeKind) (below : List Node) : Node :=
  match k with
  | .text d => .text d
  | .comment d => .comment d
  | .directive d => .directive d
  | .element tag attrs => .element tag attrs below
  | .fragment => .fragment below
  | .blank => .blank

/-- The tree below a node, if it is at most `fuel` levels deep. -/
def treeWithin (s : Store) : Nat → Nat → Option Node
  | 0, _ => none
  | fuel + 1, n => ((s.children n).mapM (treeWithin s fuel)).map (assemble (s.kind n))

/-- The tree below a node. -/
def tree? (s : Store) (n : Nat) : Option Node := s.treeWithin (s.cells.size + 1) n

/-- The numbers of a node and all nodes below it in document order, down to `fuel` levels. -/
def preorderWithin (s : Store) : Nat → Nat → List Nat
  | 0, _ => []
  | fuel + 1, n => n :: (s.children n).flatMap (preorderWithin s fuel)

/-- The numbers of a node and all nodes below it in document order. -/
def preorder (s : Store) (n : Nat) : List Nat := s.preorderWithin (s.cells.size + 1) n

mutual

/-- Adds a tree and tells the number of its root. -/
def load (s : Store) : Node → Nat × Store
  | .text d => s.new (.text d)
  | .comment d => s.new (.comment d)
  | .directive d => s.new (.directive d)
  | .element tag attrs children =>
    let (n, s) := s.new (.element tag attrs)
    (n, loadChildren s n children)
  | .fragment children =>
    let (n, s) := s.new .fragment
    (n, loadChildren s n children)
  | .blank => s.new .blank

/-- Adds trees as the last children of a node. -/
def loadChildren (s : Store) (p : Nat) : List Node → Store
  | [] => s
  | t :: ts =>
    let (n, s) := load s t
    loadChildren (s.attachAt p (s.children p).length n) p ts

end

/-- Whether every node of a tree has a kind. -/
def isCopyable (t : Node) : Bool :=
  t.preorder.all fun n => match n with
    | .blank => false
    | _ => true

/-- Adds a copy of the tree below a node and tells the number of its root. -/
def copy (n : Nat) : Linked Nat := fun s =>
  match s.tree? n with
  | none => (.error .endless, s)
  | some t =>
    if isCopyable t then
      let (m, s') := s.load t
      (.ok m, s')
    else (.error .uncopyable, s)

/-- Marks the nodes on a list and all nodes below them. Each round takes one node off the list, so
that `fuel` has to reach the number of links. -/
def markFrom (s : Store) : Nat → List Nat → Array Bool → Array Bool
  | 0, _, marks => marks
  | _, [], marks => marks
  | fuel + 1, n :: ns, marks =>
    if marks.getD n true then markFrom s fuel ns marks
    else markFrom s fuel (s.children n ++ ns) (marks.setIfInBounds n true)

/-- Forgets every node that is neither one of `roots` nor below one: it is nobody's parent any
more. -/
def retain (s : Store) (roots : List Nat) : Store :=
  let links := s.cells.foldl (fun n c => n + c.children.length + 1) roots.length
  let kept := s.markFrom (links + 1) roots (Array.replicate s.cells.size false)
  ⟨s.cells.map fun c =>
    if c.parent?.any (fun p => !kept.getD p false) then { c with parent? := none } else c⟩

/-- A short description of a node. -/
def describe (s : Store) (n : Nat) : String :=
  let count := toString (s.children n).length
  match s.kind n with
  | .text d => "Text(" ++ quote d ++ ")"
  | .comment d => "Comment(" ++ quote d ++ ")"
  | .directive d => "Directive(" ++ quote d ++ ")"
  | .element tag attrs =>
    let shown := attrs.map fun a => quote a.1 ++ ": " ++ quote a.2
    "Element(" ++ quote tag ++ ", \x7b" ++ String.intercalate ", " shown ++ "\x7d, children=" ++
      count ++ ")"
  | .fragment => "Fragment(children=" ++ count ++ ")"
  | .blank => "Node"

end Store

end HtmlTemplate.Markup
