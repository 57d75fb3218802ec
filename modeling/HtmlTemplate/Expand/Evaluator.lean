import HtmlTemplate.Component.Loader
import HtmlTemplate.Markup.Node
import HtmlTemplate.Markup.Scanner
import HtmlTemplate.Scope
import HtmlTemplate.Script.World

/-!
# Evaluators

What expansion needs from the language of expressions: an `Evaluator` gives values to program texts
and tells what templates want to know of a value. Expansion sees values only through it, so that it
works the same for every language. A computation of an evaluator changes the evaluator's state and
may end with a `Fault`.
-/

namespace HtmlTemplate.Expand

open HtmlTemplate.Markup HtmlTemplate.Script HtmlTemplate.Component

/-- Why expansion stops. -/
inductive Fault
  | diagnostic (d : Diagnostic)
  /-- An error of a program that is no problem of the template. -/
  | raised (r : Raised)
  /-- The source of a component cannot be read as markup. -/
  | unreadable (e : ScanError)
  /-- The file of a component cannot be read. -/
  | file (e : FileError)
  /-- A node of no kind would have to be copied. -/
  | uncopyable
  /-- A binding is given by a name that stands for something else in a compilation. -/
  | reservedName

namespace Fault

/-- The fault that an error of a program is. -/
def ofRaised : Raised → Fault
  | .diagnostic d => .diagnostic d
  | r => .raised r

/-- The fault that a problem is. -/
def ofProblem (p : Problem) : Fault := .diagnostic { problem := p }

/-- Records where a problem arose unless that is known already. -/
def attach (stack : List String) : Fault → Fault
  | diagnostic d => diagnostic (d.attach stack)
  | f => f

end Fault

/-- Computations of an evaluator with a state. -/
abbrev Act (W α : Type) := ExceptT Fault (StateM W) α

/-- What a value is to a template. -/
inductive ValueKind
  /-- Nothing at all or the truth value false. -/
  | absent
  /-- The truth value true. -/
  | present
  | text (s : String)
  | other
deriving DecidableEq, Repr

/-- A language of expressions with values `V` and a state `W`. -/
structure Evaluator (V W : Type) where
  /-- The value of an expression. -/
  evaluate : String → Scope V → Act W V
  /-- The value in the place of an expression that a pattern leaves out. -/
  evaluateUncaught : Act W V
  /-- Runs statements and gives the scope as it is afterwards. -/
  execute : String → Scope V → Act W (Scope V)
  kind : V → ValueKind
  /-- Whether a value counts as true. -/
  truth : V → W → Bool
  /-- A value as text in the output. -/
  text : V → Act W String
  /-- Whether two values count as the same for the cases of a switch. -/
  same : V → V → W → Bool
  /-- The number of members of a sequence. -/
  length? : V → W → Option Nat
  /-- The member of a sequence at a position. -/
  member? : V → Nat → Act W (Option V)
  /-- A value as messages show it. -/
  shown : V → Act W ShownValue
  /-- The attributes of a use of a component, made a value for its scripts. -/
  openProps : Attrs → Scope V → W → V × W
  /-- The attributes that scripts have left. -/
  leftover : V → W → Attrs
  /-- Ends the reading of attributes. -/
  closeProps : V → W → W

end HtmlTemplate.Expand
