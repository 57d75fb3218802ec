import HtmlTemplate.Bindings
import HtmlTemplate.Text.Blank
import HtmlTemplate.Text.PatternText

/-!
# Merging attributes

When an attribute is given to an element that may have it already, a `MergeStrategy` says what
becomes of the two values. `MergeRegistry.resolve` finds the strategy for a name: one for exactly
that name comes before one for a pattern, and without either the new value replaces the old one.
-/

namespace HtmlTemplate

open HtmlTemplate.Text

/-- What becomes of an attribute. -/
inductive MergeResult
  | value (s : String)
  /-- The attribute stands without a value. -/
  | present
  | removed
deriving DecidableEq, Repr

/-- What becomes of an attribute, given its old value and a new one. -/
abbrev MergeFunction := Option String → String → MergeResult

namespace MergeFunction

/-- The new value. -/
def overwrite : MergeFunction := fun _ incoming => .value incoming

/-- The words of both values, with a space between them. -/
def classes : MergeFunction := fun existing? incoming =>
  .value (strip (existing?.getD "" ++ " " ++ incoming))

/-- A row of declarations that ends with a semicolon, unless it is empty. -/
def terminated (s : String) : String :=
  let s := strip s
  if s.isEmpty || s.endsWith ";" then s else s ++ ";"

/-- The declarations of both values, each row ended by a semicolon. -/
def styles : MergeFunction := fun existing? incoming =>
  .value (String.intercalate " "
    ([terminated (existing?.getD ""), terminated incoming].filter (!·.isEmpty)))

/-- The old value. -/
def keep : MergeFunction := fun existing? _ =>
  match existing? with
  | some s => .value s
  | none => .removed

/-- Both values with a text between them. -/
def joinedBy (between : String) : MergeFunction := fun existing? incoming =>
  match existing? with
  | some s => .value (s ++ between ++ incoming)
  | none => .value incoming

/-- The new value in capital letters. -/
def uppercased : MergeFunction := fun _ incoming => .value (uppercase incoming)

/-- The same for all values. -/
def constant (r : MergeResult) : MergeFunction := fun _ _ => r

end MergeFunction

/-- The attributes that a strategy is for. -/
inductive MergeTarget
  | exactly (name : String)
  | matching (p : Pattern)

/-- A way to merge, with the attributes it is for. -/
structure MergeStrategy where
  target : MergeTarget
  merge : MergeFunction

/-- Why there is no such strategy. -/
inductive StrategyError
  /-- It has neither a name nor a pattern, or both. -/
  | needsOneTarget
  | pattern (e : PatternError)
deriving DecidableEq, Repr

/-- The message of the error that a strategy has not exactly one target. -/
def oneTargetMessage : String := "MergeStrategy needs exactly one of 'name' or 'pattern'"

namespace MergeStrategy

/-- A strategy for a name or for the text of a pattern. -/
def make (merge : MergeFunction) (name? pattern? : Option String) :
    Except StrategyError MergeStrategy :=
  match name?, pattern? with
  | some name, none => .ok ⟨.exactly name, merge⟩
  | none, some source =>
    match Pattern.parse source with
    | .ok p => .ok ⟨.matching p, merge⟩
    | .error e => .error (.pattern e)
  | _, _ => .error .needsOneTarget

/-- The name that a strategy is for. -/
def name? (s : MergeStrategy) : Option String :=
  match s.target with
  | .exactly name => some name
  | .matching _ => none

/-- The text of the pattern that a strategy is for. -/
def pattern? (s : MergeStrategy) : Option String :=
  match s.target with
  | .exactly _ => none
  | .matching p => some p.source

/-- Whether a strategy is for an attribute. -/
def fits (s : MergeStrategy) (attribute_ : String) : Bool :=
  match s.target with
  | .exactly name => name == attribute_
  | .matching p => p.occursIn attribute_

/-- The strategies for classes and styles. -/
def standard : List MergeStrategy :=
  [⟨.exactly "class", .classes⟩, ⟨.exactly "style", .styles⟩]

end MergeStrategy

/-- Strategies in the order in which they are tried. -/
structure MergeRegistry where
  strategies : List MergeStrategy

namespace MergeRegistry

/-- The given strategies with the standard ones behind them, where no other has the name. -/
def ofStrategies (given : List MergeStrategy) : MergeRegistry :=
  ⟨given ++ MergeStrategy.standard.filter fun s => !given.any fun g => g.name? == s.name?⟩

/-- The first strategy for exactly this name. -/
def named? (r : MergeRegistry) (attribute_ : String) : Option MergeStrategy :=
  r.strategies.find? fun s => s.name? == some attribute_

/-- The first strategy whose pattern occurs in the name. -/
def matching? (r : MergeRegistry) (attribute_ : String) : Option MergeStrategy :=
  r.strategies.find? fun s => s.name?.isNone && s.fits attribute_

/-- How an attribute is merged. -/
def resolve (r : MergeRegistry) (attribute_ : String) : MergeFunction :=
  match r.named? attribute_ with
  | some s => s.merge
  | none =>
    match r.matching? attribute_ with
    | some s => s.merge
    | none => .overwrite

/-- Attributes after one more is given to them. -/
def assignOne (r : MergeRegistry) (attrs : Bindings String) (name value : String) :
    Bindings String :=
  match r.resolve name (attrs.get? name) value with
  | .value s => attrs.put name s
  | .present => attrs.put name ""
  | .removed => attrs.erase name

/-- Attributes after others are given to them in order. -/
def assign (r : MergeRegistry) (attrs given : Bindings String) : Bindings String :=
  given.foldl (fun attrs entry => r.assignOne attrs entry.1 entry.2) attrs

end MergeRegistry

end HtmlTemplate
