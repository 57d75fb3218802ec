import HtmlTemplate.Expand.Choice
import HtmlTemplate.Expand.Loop
import HtmlTemplate.Expand.Reference
import HtmlTemplate.Expand.Substitution

/-!
# Expanding trees

`expandNode` tells by its tag what an element is and expands it. `expand` expands a forest: every
construct in it is replaced by what it stands for. Components may use each other, and themselves, as
deep as the limit allows; the recursion goes along the levels that are left, and inside one
component along the tree.
-/

namespace HtmlTemplate.Expand

open HtmlTemplate.Markup

variable {V W : Type}

/-- The expansion of forests at a place. -/
abbrev ForestExpansion (V W : Type) := Place V → List Node → Expansion W (List Node)

/-- Whether an element is a use of a component. -/
def isUse (o : Options) (tag : String) : Bool :=
  tag == o.componentTag || tag.startsWith o.componentPrefix

/-- Expands an element whose evaluated attributes are evaluated. -/
def expandElement (setting : Setting V W) (deeper : ForestExpansion V W) (place : Place V)
    (tag : String) (attrs : Attrs) (children : List Node) (e : Expandable V W) :
    Expansion W (List Node) := do
  let o := setting.options
  let here := [Node.element tag attrs children]
  if tag == "elseif" || tag == "else" then Expansion.refuse place here (.danglingBranch tag)
  else if tag == "switch" then expandSwitch setting place tag attrs children e.insideChild
  else if tag == "for" then expandLoop setting place tag attrs children e.inside
  else if tag == o.dynamicTag then
    expandDynamic setting place tag attrs children (e.inside place)
  else if isUse o tag then
    match Use.ofElement? o tag attrs children with
    | some u => expandUse setting deeper place u (e.inside place)
    | none => Expansion.refuse place here (.missingAttribute tag ["name"])
  else
    let cs ← Expansion.within (fun cs => [.element tag attrs cs]) (e.inside place)
    return [.element tag attrs cs]

/-- Expands a node that is no part of a chain. -/
def expandNode (setting : Setting V W) (deeper : ForestExpansion V W) (place : Place V)
    (e : Expandable V W) : Expansion W (List Node) := do
  match e.node with
  | .text data => expandText setting place data
  | .element tag attrs children =>
    let place := place.inner []
    let attrs ← evaluateAttrs setting place (fun attrs => [.element tag attrs children])
      attrs.names attrs
    expandElement setting deeper place tag attrs children e
  | n => return [n]

/-- Expands an item of a row. -/
def expandItem (setting : Setting V W) (deeper : ForestExpansion V W) (place : Place V) :
    RowItem V W → Expansion W (List Node)
  | .single e => expandNode setting deeper place e
  | .chain first links => do
    match first.node with
    | .element tag attrs children =>
      let place := place.inner []
      let attrs ← evaluateAttrs setting place
        (fun attrs => .element tag attrs children :: linkNodes links) attrs.names attrs
      expandChain setting place { first with node := .element tag attrs children } links
    | n => return n :: linkNodes links

/-- Expands siblings. -/
def expandRow (setting : Setting V W) (deeper : ForestExpansion V W) (place : Place V)
    (siblings : List (Expandable V W)) : Expansion W (List Node) :=
  expandItems setting.options (expandItem setting deeper place) (rowOf siblings)

mutual

/-- A node with the expansion of what is inside it. -/
def expandable (row : Place V → List (Expandable V W) → Expansion W (List Node)) :
    Node → Expandable V W
  | .element tag attrs children => {
      node := .element tag attrs children
      inside := fun place => row place (expandables row children)
      insideChild := fun k place =>
        match (expandables row children)[k]? with
        | some e => e.inside place
        | none => return [] }
  | n => { node := n, inside := fun _ => return [], insideChild := fun _ _ => return [] }

/-- Nodes with the expansion of what is inside them. -/
def expandables (row : Place V → List (Expandable V W) → Expansion W (List Node)) :
    List Node → List (Expandable V W)
  | [] => []
  | n :: ns => expandable row n :: expandables row ns

end

/-- Expands a forest in which components may nest so many levels deep. -/
def expandLevels (setting : Setting V W) : Nat → ForestExpansion V W
  | 0 => fun _ forest => return forest
  | levels + 1 => fun place forest =>
    let row := expandRow setting (expandLevels setting levels)
    row place (expandables row forest)

/-- Expands a forest: the level of the template itself and those of the components inside it. -/
def expand (setting : Setting V W) (scope : Scope V) (forest : List Node) :
    Expansion W (List Node) :=
  Expansion.whole <|
    expandLevels setting (setting.limit.value.toNat + 1) { scope := scope } forest

end HtmlTemplate.Expand
