import HtmlTemplate.Expand.Row

/-!
# Choices

Of a chain of branches the first one whose condition holds is expanded, and of the cases of a switch
the first one that equals its value; the others are dropped unexpanded. What is chosen gives way to
its children.
-/

namespace HtmlTemplate.Expand

open HtmlTemplate.Markup

variable {V W : Type}

/-- A node with other children. -/
def withChildren (n : Node) (children : List Node) : Node :=
  match n with
  | .element tag attrs _ => .element tag attrs children
  | .fragment _ => .fragment children
  | n => n

/-! ### Chains -/

/-- Whether a branch lacks the condition that it needs. -/
def lacksCondition (n : Node) : Bool := !n.hasTag "else" && !n.attrs.has "condition"

/-- The position of the first branch that is chosen, counted from `index` on. -/
def chosenBranch? (ev : Evaluator V W) (scope : Scope V) (index : Nat) :
    List Node → Act W (Option Nat)
  | [] => return none
  | n :: ns => do
    if n.hasTag "else" then return some index
    else
      let v ← ev.evaluate ((n.attrs.get? "condition").getD "") scope
      if ev.truth v (← get) then return some index else chosenBranch? ev scope (index + 1) ns

/-- The gaps before and after the branch at a position, where the first branch has none before
it. -/
def gapsAround (links : List (Link V W)) (index : Nat) : List Node × List Node :=
  (((links.take index).map Link.gap).flatten, ((links.drop index).map Link.gap).flatten)

/-- Expands a chain whose first branch has evaluated attributes already. -/
def expandChain (setting : Setting V W) (place : Place V) (first : Expandable V W)
    (links : List (Link V W)) : Expansion W (List Node) := do
  let branches := first :: links.map Link.branch
  let here := first.node :: linkNodes links
  match branches.find? fun b => lacksCondition b.node with
  | some b =>
    Expansion.refuse place here (.missingAttribute (b.node.tag?.getD "") ["condition"])
  | none =>
    let chosen? ← Expansion.compute place here
      (chosenBranch? setting.evaluator place.scope 0 (branches.map Expandable.node))
    match chosen?.bind fun k => (branches[k]?).map (k, ·) with
    | none => return (gapsAround links 0).2
    | some (k, chosen) =>
      let (before, after) := gapsAround links k
      let body ← Expansion.within (fun cs => before ++ withChildren chosen.node cs :: after)
        (chosen.inside (place.inner []))
      return before ++ body ++ after

/-! ### Switches -/

/-- Whether a node is a case with an expression. -/
def isComparedCase (n : Node) : Bool :=
  n.hasTag "case" && n.attrs.has "case" && !n.attrs.has "default"

/-- Whether a node is a case for all other values. -/
def isDefaultCase (n : Node) : Bool :=
  n.hasTag "case" && n.attrs.has "default" && !n.attrs.has "case"

/-- The position of the first case that equals a value, counted from `index` on. -/
def equalCase? (ev : Evaluator V W) (scope : Scope V) (value : V) (index : Nat) :
    List Node → Act W (Option Nat)
  | [] => return none
  | n :: ns => do
    if isComparedCase n then
      let v ← ev.evaluate ((n.attrs.get? "case").getD "") scope
      if ev.same v value (← get) then return some index
      else equalCase? ev scope value (index + 1) ns
    else equalCase? ev scope value (index + 1) ns

/-- Expands a switch. -/
def expandSwitch (setting : Setting V W) (place : Place V) (tag : String) (attrs : Attrs)
    (children : List Node) (insideChild : Nat → Place V → Expansion W (List Node)) :
    Expansion W (List Node) := do
  let ev := setting.evaluator
  let here := [Node.element tag attrs children]
  match attrs.get? "value" with
  | none => Expansion.refuse place here (.missingAttribute tag ["value"])
  | some source =>
    let equal? ← Expansion.compute place here do
      let value ← ev.evaluate source place.scope
      equalCase? ev place.scope value 0 children
    match equal?.orElse fun _ => children.findIdx? isDefaultCase with
    | none => return []
    | some k =>
      Expansion.within (fun cs => [.element tag attrs (children.modify k (withChildren · cs))])
        (insideChild k place)

end HtmlTemplate.Expand
