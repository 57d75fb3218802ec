import HtmlTemplate.Expand.Tree
import HtmlTemplate.Stacks
import HtmlTemplate.Titles

/-!
# Compiling templates

A template is read, expanded, and rid of stacks and titles in the wrong place; what is left is written
as HTML, laid out if that is asked for. A `Compiler` does that for one template after another and
keeps the components that it has loaded.
-/

namespace HtmlTemplate

open HtmlTemplate.Text HtmlTemplate.Markup HtmlTemplate.Component HtmlTemplate.Expand

variable {V W : Type}

/-! ### Notes in words -/

/-- The parts of the work that notes come from. -/
inductive Origin
  | registry
  | expansion
  | layout
  | compiler
deriving DecidableEq, Repr

/-- A line of a log. -/
structure LogLine where
  origin : Origin
  warning : Bool
  text : String
deriving DecidableEq, Repr

/-- The warning that a source cannot be laid out. -/
def layoutWarning (e : ScanError) : LogLine :=
  ⟨.layout, true, "HTML formatting failed, returning unformatted output: " ++ e.message⟩

/-- A line with a source that is laid out below it. -/
def sourceLines (origin : Origin) (title source : String) : List LogLine :=
  let (laidOut, e?) := format source
  e?.toList.map layoutWarning ++ [⟨origin, false, title ++ "\n" ++ laidOut⟩]

/-- The lines of a log that a note stands for. -/
def Expand.Note.lines : Note → List LogLine
  | .lookup line => [⟨.registry, false, line⟩]
  | .step number _ forest =>
    sourceLines .expansion ("Rewrite step " ++ toString number ++ ":") (render forest)
  | .compiled html => sourceLines .compiler "Compiled output:" html
  | .unformatted e => [layoutWarning e]

/-! ### From a template to HTML -/

/-- Computations on the state of a compiler. -/
abbrev Compiling (W α : Type) := ExceptT Fault (StateM (State W)) α

/-- Expands a forest with a count of steps of its own; a stop is a failure. -/
def expandForest (setting : Setting V W) (scope : Scope V) (forest : List Node) :
    Compiling W (List Node) := fun s =>
  let (result, s') := expand setting scope forest { s with steps := 0 }
  (result.mapError Stop.fault, s')

/-- The tree that a template stands for. -/
def compileForest (setting : Setting V W) (scope : Scope V) (forest : List Node) :
    Compiling W (List Node) := do
  let o := setting.options
  let forest ← expandForest setting scope forest
  let r := Stacks.resolve o.pushTag o.stackTag forest
  match r.problem? with
  | some p => throw (.ofProblem p)
  | none => return Titles.relocate o.titleRule r.forest

/-- Takes a note. -/
def takeNote (n : Note) : Compiling W Unit :=
  modify fun s => { s with notes := n :: s.notes }

/-- The HTML that a template stands for. -/
def compileSource (setting : Setting V W) (scope : Scope V) (source : String) :
    Compiling W String := do
  match parse source with
  | .error e => throw (.unreadable e)
  | .ok forest =>
    let html := render (← compileForest setting scope forest)
    if setting.options.debug then takeNote (.compiled html)
    if setting.options.pretty then
      let (laidOut, e?) := format html
      match e? with
      | some e => takeNote (.unformatted e)
      | none => pure ()
      return laidOut
    else return html

/-! ### Compilers -/

/-- A compiler with what it keeps from one template to the next. -/
structure Compiler (V W : Type) where
  setting : Setting V W
  /-- The bindings that all templates see. -/
  context : Bindings V := []
  state : State W

namespace Compiler

/-- The loader for the directory that options name. -/
def standardLoader (o : Options) : Loader :=
  .directory (Path.ofString o.componentsRoot) (Encoding.ofName? o.encoding)

/-- A compiler without loaded components. -/
def make (o : Options) (ev : Evaluator V W) (world : W) (context : Bindings V)
    (loader? : Option Loader) (files : FileTree) : Compiler V W where
  setting := { options := o, evaluator := ev, limit := o.depthLimit }
  context := context
  state := {
    world := world
    registry := {
      registry := Registry.make o.components (some (loader?.getD (standardLoader o)))
        o.cacheComponents
      files := files } }

/-- Runs a computation on the state of a compiler. -/
def run {α : Type} (c : Compiler V W) (x : Compiling W α) : Except Fault α × Compiler V W :=
  let (result, state) := x c.state
  (result, { c with state := state })

/-- Compiles a template with bindings laid over those of the compiler. -/
def compile (c : Compiler V W) (source : String) (bindings : Bindings V) :
    Except Fault String × Compiler V W :=
  c.run (compileSource c.setting (.root (c.context.overlay bindings)) source)

/-- The names of what a compilation is about: the compiler, the template and its context. -/
def reservedNames : List String := ["self", "source", "context"]

/-- Compiles a template in a context with bindings given by name over it. -/
def compileIn (c : Compiler V W) (source : String) (context named : Bindings V) :
    Except Fault String × Compiler V W :=
  if reservedNames.any named.has then (.error .reservedName, c)
  else c.compile source (context.overlay named)

/-- Has the registry compute. -/
def withRegistry {α : Type} (x : Lookup α) : Compiling W α := fun s =>
  let (result, registry) := x.run.run { s.registry with log := [] }
  (result.mapError fun e => match e with
    | .notFound name searched hint? =>
      .diagnostic (notFoundProblem name none searched hint? [])
    | .file e => .file e,
    { s with
      registry := { registry with log := [] }
      notes := registry.log.map Note.lookup ++ s.notes })

/-- Loads all components that can be listed, and tells how many there are. -/
def preload (c : Compiler V W) : Except Fault Nat × Compiler V W := c.run (withRegistry Lookup.preload)

/-- Forgets the components that were loaded. -/
def clearCache (c : Compiler V W) : Compiler V W := (c.run (withRegistry Lookup.clear)).2

/-- A short description of a compiler. -/
def text (c : Compiler V W) : String :=
  "<Compiler components_root=" ++ Text.quote c.setting.options.componentsRoot ++ " cached=" ++
    toString c.state.registry.registry.cachedNames.length ++ ">"

/-- The lines of the log so far. -/
def log (c : Compiler V W) : List LogLine := c.state.notes.reverse.flatMap Note.lines

end Compiler

end HtmlTemplate
