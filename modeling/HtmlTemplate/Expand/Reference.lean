import HtmlTemplate.Expand.Distribution
import HtmlTemplate.Expand.Projection
import HtmlTemplate.Expand.Row

/-!
# References to components

A reference is replaced by the tree of a component. The scripts for the server at the top of that
tree run first; they may read the attributes of the reference, which uses these up. Then the tree is
expanded and takes the attributes that are left. The content of the reference is expanded where the
reference stands, and projected into the tree.
-/

namespace HtmlTemplate.Expand

open HtmlTemplate.Markup HtmlTemplate.Component

variable {V W : Type}

/-- A use of a component: the element and the name that it refers to. -/
structure Use where
  tag : String
  attrs : Attrs
  children : List Node
  name : String

namespace Use

/-- The element of a use, with the given attributes and children. -/
def node (u : Use) (attrs : Attrs) (children : List Node) : List Node :=
  [.element u.tag attrs children]

/-- An element as a use of a component; its name stands behind the prefix of its tag or, under the
tag for components, in an attribute that is used up. -/
def ofElement? (o : Options) (tag : String) (attrs : Attrs) (children : List Node) : Option Use :=
  if tag == o.componentTag then
    (attrs.get? "name").map fun name => ⟨tag, attrs.erase "name", children, name⟩
  else
    some ⟨tag, attrs, children, String.ofList (tag.toList.drop o.componentPrefix.length)⟩

end Use

/-- Whether a node is a script for the server. -/
def isServerScript (n : Node) : Bool := n.hasTag "script" && n.attrs.has "server"

/-- The program text in a script. -/
def scriptBody (n : Node) : String :=
  String.join (n.children.map fun c => match c with
    | .text data => data
    | _ => "")

/-- Runs program texts one after another in a scope. -/
def executeAll (ev : Evaluator V W) : List String → Scope V → Act W (Scope V)
  | [], scope => return scope
  | source :: rest, scope => do
    let scope ← ev.execute source scope
    executeAll ev rest scope

/-- The name under which scripts see the attributes of a reference. -/
def propsName : String := "props"

/-- The source of the component of a use. -/
def findSource (place : Place V) (u : Use) : Expansion W String := do
  match ← Expansion.lookup u.name with
  | .ok source => return source
  | .error (.notFound _ searched hint?) =>
    Expansion.stop place (u.node u.attrs u.children)
      (.diagnostic (notFoundProblem u.name (some u.tag) searched hint? place.stack))
  | .error (.file e) => Expansion.stop place (u.node u.attrs u.children) (.file e)

/-- The expanded tree of a component with its attributes, and what is left of the attributes of the
use; `deeper` expands nodes inside the component. -/
def expandSource (setting : Setting V W) (deeper : Place V → List Node → Expansion W (List Node))
    (place : Place V) (u : Use) (source : String) : Expansion W (List Node × Attrs) := do
  let ev := setting.evaluator
  let inner : Place V := { place with stack := place.stack ++ [u.name] }
  match parse source with
  | .error e => Expansion.stop inner (u.node u.attrs u.children) (.unreadable e)
  | .ok forest =>
    let props ← modifyGet fun s =>
      let (props, world) := ev.openProps u.attrs place.scope s.world
      (props, { s with world := world })
    Expansion.attaching inner.stack do
      Expansion.apart (fun w => u.node (ev.leftover props w) u.children) do
        let scope ← Expansion.compute inner []
          (executeAll ev ((forest.filter isServerScript).map scriptBody)
            (place.scope.child [(propsName, props)]))
        modify fun s => { s with world := ev.closeProps props s.world }
        let left ← Expansion.observe (ev.leftover props)
        let scope := { scope with frame := Bindings.erase scope.frame propsName }
        let tree ← deeper { inner with scope := scope }
          (forest.filter fun n => !isServerScript n)
        let merging := MergeRegistry.ofStrategies setting.options.strategies
        return (distribute setting.options.attrMarker merging left tree, left)

/-- Expands a use of a component. -/
def expandUse (setting : Setting V W) (deeper : Place V → List Node → Expansion W (List Node))
    (place : Place V) (u : Use) (inside : Expansion W (List Node)) : Expansion W (List Node) := do
  let o := setting.options
  match checkDepth setting.limit place.stack u.name with
  | .error d => Expansion.stop place (u.node u.attrs u.children) (.diagnostic d)
  | .ok () =>
    let source ← findSource place u
    let (tree, attrs) ← expandSource setting deeper place u source
    let content ← Expansion.within (u.node attrs) inside
    match Content.ofNodes? o.fillTag content with
    | none => Expansion.refuse place (u.node attrs []) (.missingAttribute o.fillTag ["slot"])
    | some content =>
      match project o.yieldTag o.slotTag content tree with
      | .ok nodes => return nodes
      | .error .uncopyable => Expansion.stop place (u.node attrs []) .uncopyable
      | .error .unnamed =>
        let stack := place.stack ++ [u.name]
        Expansion.stop { place with stack := stack } (u.node attrs []) (.diagnostic {
          problem := .missingAttribute o.slotTag ["name"], stack := stack })

end HtmlTemplate.Expand
