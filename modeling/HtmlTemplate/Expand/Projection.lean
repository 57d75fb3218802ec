import HtmlTemplate.Markup.Linked

/-!
# Projecting content

The content that a component is used with goes into its tree: every `yield` element is replaced by a
copy of the content outside all fills, and every slot by a copy of what the fills of its name hold.
An element for which there is nothing gives way to its own children.
-/

namespace HtmlTemplate.Expand

open HtmlTemplate.Markup

/-- The content that a component is used with. -/
structure Content where
  /-- The nodes outside all fills. -/
  main : List Node := []
  /-- The nodes in fills, by the name of the slot. -/
  fills : Bindings (List Node) := []

namespace Content

/-- Adds a node to content; a fill has to name its slot. -/
def add? (fillTag : String) (c : Content) (n : Node) : Option Content :=
  if n.hasTag fillTag then
    (n.attrs.get? "slot").map fun slot =>
      { c with fills := c.fills.put slot ((c.fills.get? slot).getD [] ++ n.children) }
  else some { c with main := c.main ++ [n] }

/-- Nodes as content, unless a fill does not name its slot. -/
def ofNodes? (fillTag : String) (nodes : List Node) : Option Content :=
  nodes.foldlM (add? fillTag) {}

end Content

mutual

/-- Replaces the elements of a tree with the given tag by nodes, or by their children when there are
none. -/
def projectMain (tag : String) (main : List Node) : Node → List Node
  | .element t attrs cs =>
    if t == tag then
      if main.isEmpty then projectMains tag main cs else main
    else [.element t attrs (projectMains tag main cs)]
  | .fragment cs => [.fragment (projectMains tag main cs)]
  | n => [n]

/-- Replaces the elements of a forest with the given tag by nodes. -/
def projectMains (tag : String) (main : List Node) : List Node → List Node
  | [] => []
  | n :: ns => projectMain tag main n ++ projectMains tag main ns

end

/-- Why content cannot be projected. -/
inductive ProjectionError
  /-- A slot has no name. -/
  | unnamed
  /-- The content contains a node of no kind. -/
  | uncopyable
deriving DecidableEq, Repr

mutual

/-- Replaces the elements of a tree with the given tag by the fills for their names, or by their
children when there is no such fill. -/
def projectFills (tag : String) (fills : Bindings (List Node)) :
    Node → Except ProjectionError (List Node)
  | .element t attrs cs =>
    if t == tag then
      match attrs.get? "name" with
      | none => .error .unnamed
      | some name =>
        match fills.get? name with
        | none => projectAllFills tag fills cs
        | some content =>
          if content.all Store.isCopyable then .ok content else .error .uncopyable
    else (projectAllFills tag fills cs).map fun cs => [.element t attrs cs]
  | .fragment cs => (projectAllFills tag fills cs).map fun cs => [.fragment cs]
  | n => .ok [n]

/-- Replaces the elements of a forest with the given tag by the fills for their names. -/
def projectAllFills (tag : String) (fills : Bindings (List Node)) :
    List Node → Except ProjectionError (List Node)
  | [] => .ok []
  | n :: ns =>
    match projectFills tag fills n with
    | .error e => .error e
    | .ok nodes => (projectAllFills tag fills ns).map (nodes ++ ·)

end

/-- Puts content into the tree of a component. -/
def project (yieldTag slotTag : String) (content : Content) (forest : List Node) :
    Except ProjectionError (List Node) :=
  if !content.main.all Store.isCopyable && (Node.find? (·.hasTag yieldTag) forest).isSome then
    .error .uncopyable
  else projectAllFills slotTag content.fills (projectMains yieldTag content.main forest)

end HtmlTemplate.Expand
