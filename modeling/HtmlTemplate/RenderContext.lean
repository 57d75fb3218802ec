import HtmlTemplate.Diagnostic

/-!
# Render contexts

A `RenderContext` belongs to one rendering of a template: it records which components are being
expanded, how deep they may nest, and how many rewrite steps were taken. `Rendering` computations run
with a current context or without one. `withContext` gives a computation a context of its own and
`withComponent` puts a component on the stack; both undo that afterwards, however the computation
ends.
-/

namespace HtmlTemplate

/-- How deep components may nest; a truth value counts as one or none. -/
inductive DepthLimit
  | count (n : Int)
  | flag (b : Bool)
deriving DecidableEq, Repr

/-- The number of components that may be expanded at a time. -/
def DepthLimit.value : DepthLimit → Int
  | count n => n
  | flag b => b.toNat

/-- A limit as messages show it. -/
def DepthLimit.text : DepthLimit → String
  | count n => toString n
  | flag b => if b then "True" else "False"

/-- What belongs to one rendering. -/
structure RenderContext where
  /-- The components being expanded, outermost first. -/
  stack : List String := []
  /-- The number of rewrite steps taken. -/
  step : Nat := 0
  limit : DepthLimit := .count 100
deriving DecidableEq, Repr

/-- The problem of a component that would nest too deeply. -/
def depthProblem (limit : DepthLimit) (stack : List String) (name : String) : Diagnostic where
  problem := .componentDepth ("Maximum component depth exceeded (" ++ limit.text ++
    ") when expanding '" ++ name ++ "'") none []
  stack := stack
  hint? := some "Check for a component that references itself: A → B → A"

/-- Refuses a component when as many are being expanded as may be. -/
def checkDepth (limit : DepthLimit) (stack : List String) (name : String) : Except Diagnostic Unit :=
  if limit.value ≤ stack.length then .error (depthProblem limit stack name) else .ok ()

/-- Why a computation with contexts fails. -/
inductive RenderingError
  /-- It needs a context, and there is none. -/
  | noContext
  | diagnostic (d : Diagnostic)
deriving DecidableEq, Repr

/-- The message of the error that there is no context. -/
def noContextMessage : String := "Not in a render context"

/-- Computations that run with a current context or without one. -/
abbrev Rendering := ExceptT RenderingError (StateM (Option RenderContext))

namespace Rendering

variable {α : Type}

/-- The current context, which has to exist. -/
def context : Rendering RenderContext := do
  match ← get with
  | some c => return c
  | none => throw .noContext

/-- Refuses a component that would nest too deeply. -/
def check (name : String) : Rendering Unit := do
  let c ← context
  match checkDepth c.limit c.stack name with
  | .ok () => return ()
  | .error d => throw (.diagnostic d)

/-- Counts a rewrite step and gives its number. -/
def nextStep : Rendering Nat := do
  let c ← context
  set (some { c with step := c.step + 1 })
  return c.step + 1

/-- Takes the last component off the stack of the current context. -/
def leaveComponent : Option RenderContext → Option RenderContext
  | some c => some { c with stack := c.stack.dropLast }
  | none => none

/-- Runs a computation with a component on the stack. -/
def withComponent (name : String) (x : Rendering α) : Rendering α := fun current =>
  match check name current with
  | (.error e, current) => (.error e, current)
  | (.ok (), current) =>
    let (result, current) := x (current.map fun c => { c with stack := c.stack ++ [name] })
    (result, leaveComponent current)

/-- Runs a computation with a context of its own. -/
def withContext (limit : DepthLimit) (x : Rendering α) : Rendering α := fun current =>
  ((x (some { limit := limit })).1, current)

end Rendering

end HtmlTemplate
