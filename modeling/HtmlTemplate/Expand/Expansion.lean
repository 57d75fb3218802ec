import HtmlTemplate.Component.Registry
import HtmlTemplate.Expand.Evaluator
import HtmlTemplate.Markup.Layout
import HtmlTemplate.Options

/-!
# Expansions

An `Expansion` is a computation that expands nodes: it uses an evaluator and a registry of
components, takes notes, and may stop. A `Stop` tells why, and what has become of the nodes by then.
Expansions speak only of the nodes that they are about; `within` puts these into their surroundings,
both in a stop and in the notes. `whole` and `apart` are for nodes that have no surroundings.
-/

namespace HtmlTemplate.Expand

open HtmlTemplate.Markup HtmlTemplate.Component

/-- What is worth noting. -/
inductive Note
  /-- A line of the registry. -/
  | lookup (line : String)
  /-- The tree after a step; `whole` tells that nothing is around it. -/
  | step (number : Nat) (whole : Bool) (forest : List Node)
  /-- The HTML of the finished tree. -/
  | compiled (html : String)
  /-- Layout that is not possible. -/
  | unformatted (e : ScanError)

namespace Note

/-- Puts the tree of a note into its surroundings. -/
def within (f : List Node → List Node) : Note → Note
  | step number false forest => step number false (f forest)
  | n => n

/-- Marks the tree of a note as whole. -/
def complete : Note → Note
  | step number _ forest => step number true forest
  | n => n

end Note

/-- What expansions change. -/
structure State (W : Type) where
  /-- The state of the evaluator. -/
  world : W
  registry : RegistryState
  /-- Notes, the latest first. -/
  notes : List Note := []
  /-- The number of steps taken. -/
  steps : Nat := 0

/-- The end of an expansion that does not finish. -/
structure Stop where
  fault : Fault
  /-- The components that were being expanded. -/
  stack : List String
  /-- What has become of the nodes. -/
  left : List Node

/-- Where nodes stand: the bindings they see and the components being expanded. -/
structure Place (V : Type) where
  scope : Scope V
  stack : List String := []

/-- A place in a scope of its own inside the scope of a place. -/
def Place.inner {V : Type} (p : Place V) (bindings : Bindings V) : Place V :=
  { p with scope := p.scope.child bindings }

/-- What does not change while a template is expanded. -/
structure Setting (V W : Type) where
  options : Options
  evaluator : Evaluator V W
  /-- How deep components may nest. -/
  limit : DepthLimit

/-- Computations that expand nodes. -/
abbrev Expansion (W α : Type) := ExceptT Stop (StateM (State W)) α

namespace Expansion

variable {V W α : Type}

/-- Stops at a place. -/
def stop (place : Place V) (left : List Node) (fault : Fault) : Expansion W α :=
  throw ⟨fault, place.stack, left⟩

/-- Stops at a place because of a problem. -/
def refuse (place : Place V) (left : List Node) (p : Problem) : Expansion W α :=
  stop place left (.ofProblem p)

/-- Has an evaluator compute; when it fails, the given nodes are left. -/
def compute (place : Place V) (left : List Node) (x : Act W α) : Expansion W α := fun s =>
  let (result, world) := x s.world
  (result.mapError (⟨·, place.stack, left⟩), { s with world := world })

/-- What can be read off the state of the evaluator. -/
def observe (f : W → α) : Expansion W α := return f (← get).world

/-- Puts the nodes of an expansion into their surroundings. -/
def within (f : List Node → List Node) (x : Expansion W α) : Expansion W α := fun s =>
  let (result, s') := x { s with notes := [] }
  (result.mapError fun stop => { stop with left := f stop.left },
    { s' with notes := s'.notes.map (Note.within f) ++ s.notes })

/-- Expands nodes that have nothing around them. -/
def whole (x : Expansion W α) : Expansion W α := fun s =>
  let (result, s') := x { s with notes := [] }
  (result, { s' with notes := s'.notes.map Note.complete ++ s.notes })

/-- Expands nodes that have nothing around them, in the place of others: these are left when the
expansion stops. -/
def apart (left : W → List Node) (x : Expansion W α) : Expansion W α := fun s =>
  let (result, s') := whole x s
  (result.mapError fun stop => { stop with left := left s'.world }, s')

/-- Records where problems arise in the expansion of components. -/
def attaching (stack : List String) (x : Expansion W α) : Expansion W α := fun s =>
  let (result, s') := x s
  (result.mapError fun stop => { stop with fault := stop.fault.attach stack }, s')

/-- Takes a note. -/
def note (n : Note) : Expansion W Unit :=
  modify fun s => { s with notes := n :: s.notes }

/-- Counts a step and notes the tree after it, when the options ask for that. -/
def noteStep (o : Options) (forest : List Node) : Expansion W Unit := do
  if o.debug then
    modify fun s => { s with
      steps := s.steps + 1, notes := .step (s.steps + 1) false forest :: s.notes }

/-- Looks a component up. -/
def lookup (name : String) : Expansion W (Except LoadError String) := fun s =>
  let (result, registry) := (Lookup.source name).run.run { s.registry with log := [] }
  (.ok result, { s with
    registry := { registry with log := [] }
    notes := registry.log.map Note.lookup ++ s.notes })

end Expansion

end HtmlTemplate.Expand
