import HtmlTemplate.Bindings
import HtmlTemplate.Text.Quoted

/-!
# Scopes

A `Scope` is a chain of frames. A read goes from the innermost frame outwards to the first one that
binds the name; writes and removals touch the innermost frame alone. `Scope.flatten` collapses the
chain into one list of bindings in which the innermost binding of each name counts. A `ScopeForest`
holds scopes that share their outer frames.
-/

namespace HtmlTemplate

universe w

/-- A chain of frames. -/
structure Scope (α : Type w) where
  /-- The innermost frame. -/
  frame : Bindings α
  /-- The frames around it, from the inside out. -/
  outer : List (Bindings α) := []

/-- Why a scope refuses a removal or a read. -/
inductive ScopeError
  /-- The name is not bound where the operation looks for it. -/
  | unbound (name : String)
  /-- Nothing is bound. -/
  | empty
deriving DecidableEq, Repr

/-- The name that an error is about, in quotes. -/
def ScopeError.text : ScopeError → String
  | unbound name => Text.quote name
  | empty => ""

namespace Scope

variable {α : Type w}

/-- A scope without outer frames. -/
def root (bindings : Bindings α) : Scope α := ⟨bindings, []⟩

/-- A scope with one more frame inside. -/
def child (s : Scope α) (bindings : Bindings α) : Scope α := ⟨bindings, s.frame :: s.outer⟩

/-- All frames from the inside out. -/
def frames (s : Scope α) : List (Bindings α) := s.frame :: s.outer

/-- The number of frames around the innermost one. -/
def depth (s : Scope α) : Nat := s.outer.length

/-- The innermost binding of a name. -/
def get? (s : Scope α) (name : String) : Option α :=
  s.frames.findSome? fun frame => Bindings.get? frame name

/-- Whether any frame binds a name. -/
def has (s : Scope α) (name : String) : Bool :=
  s.frames.any fun frame => Bindings.has frame name

/-- Binds a name in the innermost frame. -/
def put (s : Scope α) (name : String) (value : α) : Scope α :=
  { s with frame := Bindings.put s.frame name value }

/-- The names of a list that come before all their repetitions and are not in `seen`. -/
def firstNames (seen : List String) : List String → List String
  | [] => []
  | n :: ns => if seen.contains n then firstNames seen ns else n :: firstNames (n :: seen) ns

/-- The bound names, those of inner frames first. -/
def names (s : Scope α) : List String :=
  firstNames [] (s.frames.flatMap Bindings.names)

/-- The number of bound names. -/
def size (s : Scope α) : Nat := s.names.length

/-- All frames laid over each other, the innermost on top. -/
def flatten (s : Scope α) : Bindings α :=
  s.frames.foldr (fun frame acc => Bindings.overlay acc frame) []

/-- The innermost binding of a name, or the error that there is none. -/
def item (s : Scope α) (name : String) : Except ScopeError α :=
  match s.get? name with
  | some v => .ok v
  | none => .error (.unbound name)

/-- Removes a name from the innermost frame. -/
def erase (s : Scope α) (name : String) : Except ScopeError (Scope α) :=
  if Bindings.has s.frame name then .ok { s with frame := Bindings.erase s.frame name }
  else .error (.unbound name)

/-- Reads a name and removes it from the innermost frame; `default?` stands in for a name that is
not bound at all. -/
def pop (s : Scope α) (name : String) (default? : Option α) : Except ScopeError (α × Scope α) :=
  match s.get? name, default? with
  | some v, _ => (s.erase name).map (v, ·)
  | none, some v => .ok (v, s)
  | none, none => .error (.unbound name)

/-- Removes the first bound name, which has to be in the innermost frame, with its value. -/
def popItem (s : Scope α) : Except ScopeError (String × α × Scope α) :=
  match s.names with
  | [] => .error .empty
  | name :: _ => (s.pop name none).map (name, ·)

/-- Removes first names for as long as that is possible, at most `fuel` times. -/
def popItems : Nat → Scope α → Scope α
  | 0, s => s
  | fuel + 1, s =>
    match s.popItem with
    | .ok (_, _, s') => popItems fuel s'
    | .error _ => s

/-- Removes first names for as long as that is possible. -/
def clear (s : Scope α) : Scope α := s.popItems (s.frame.length + 1)

/-- The innermost binding of a name, which is made when there is none. -/
def getOrPut (s : Scope α) (name : String) (value : α) : α × Scope α :=
  match s.get? name with
  | some v => (v, s)
  | none => (value, s.put name value)

/-- Binds names in the innermost frame. -/
def putAll (s : Scope α) (bindings : Bindings α) : Scope α :=
  { s with frame := Bindings.overlay s.frame bindings }

end Scope

/-- Scopes by number, each with the number of the scope around it. -/
structure ScopeForest (α : Type w) where
  nodes : Array (Bindings α × Option Nat) := #[]

namespace ScopeForest

variable {α : Type w}

/-- Adds a scope. -/
def add (f : ScopeForest α) (bindings : Bindings α) (parent? : Option Nat) :
    Nat × ScopeForest α :=
  (f.nodes.size, ⟨f.nodes.push (bindings, parent?)⟩)

/-- The frames of a scope from the inside out; at most `fuel` of them. -/
def framesFrom (f : ScopeForest α) : Nat → Nat → List (Bindings α)
  | 0, _ => []
  | fuel + 1, n =>
    match f.nodes[n]? with
    | none => []
    | some (frame, none) => [frame]
    | some (frame, some p) => frame :: framesFrom f fuel p

/-- The scope with a number. -/
def scope (f : ScopeForest α) (n : Nat) : Scope α :=
  match f.framesFrom (f.nodes.size + 1) n with
  | [] => ⟨[], []⟩
  | frame :: outer => ⟨frame, outer⟩

/-- Replaces the innermost frame of a scope. -/
def setFrame (f : ScopeForest α) (n : Nat) (frame : Bindings α) : ScopeForest α :=
  ⟨f.nodes.modify n fun node => (frame, node.2)⟩

end ScopeForest

end HtmlTemplate
