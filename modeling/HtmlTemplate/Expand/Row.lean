import HtmlTemplate.Expand.Expansion

/-!
# Rows

Siblings are expanded from left to right. An `Expandable` is a node with the expansion of what is
inside it, so that the constructs need not know how trees are expanded. `rowOf` gathers each `if`
with the branches that belong to it into a chain; between the branches of a chain stand nothing but
comments and blank texts.
-/

namespace HtmlTemplate.Expand

open HtmlTemplate.Markup HtmlTemplate.Text

/-- A node with the expansion of what is inside it. -/
structure Expandable (V W : Type) where
  node : Node
  /-- Expands the children. -/
  inside : Place V → Expansion W (List Node)
  /-- Expands the children of the child at a position. -/
  insideChild : Nat → Place V → Expansion W (List Node)

/-- A branch of a chain with the nodes between it and the branch before it. -/
structure Link (V W : Type) where
  gap : List Node
  branch : Expandable V W

/-- What is expanded in one go. -/
inductive RowItem (V W : Type)
  | single (e : Expandable V W)
  /-- A condition with the branches that follow it. -/
  | chain (first : Expandable V W) (links : List (Link V W))

/-- Whether a node may stand between branches. -/
def isGap : Node → Bool
  | .comment _ => true
  | .text data => isBlankText data
  | _ => false

/-- Whether a node is a further branch of a chain. -/
def isBranch (n : Node) : Bool := n.hasTag "elseif" || n.hasTag "else"

variable {V W : Type}

/-- The nodes of links. -/
def linkNodes (links : List (Link V W)) : List Node :=
  links.flatMap fun l => l.gap ++ [l.branch.node]

namespace RowItem

/-- The nodes of an item. -/
def nodes : RowItem V W → List Node
  | single e => [e.node]
  | chain first links => first.node :: linkNodes links

end RowItem

/-- The nodes of a row. -/
def rowNodes (row : List (RowItem V W)) : List Node := row.flatMap RowItem.nodes

/-- Takes the branches off a row that follow a condition, after a gap of nodes passed over. -/
def takeLinks (gap : List Node) : List (RowItem V W) → Option (List (Link V W) × List (RowItem V W))
  | .single e :: rest =>
    if isGap e.node then takeLinks (gap ++ [e.node]) rest
    else if isBranch e.node then
      let link : Link V W := ⟨gap, e⟩
      if e.node.hasTag "else" then some ([link], rest)
      else match takeLinks [] rest with
        | some (links, rest') => some (link :: links, rest')
        | none => some ([link], rest)
    else none
  | _ => none

/-- Siblings as items of a row. -/
def rowOf : List (Expandable V W) → List (RowItem V W)
  | [] => []
  | e :: es =>
    let rest := rowOf es
    if e.node.hasTag "if" then
      match takeLinks [] rest with
      | some (links, rest') => .chain e links :: rest'
      | none => .chain e [] :: rest
    else .single e :: rest

/-- Expands the items of a row one after another by `item`. -/
def expandItems (o : Options) (item : RowItem V W → Expansion W (List Node)) :
    List (RowItem V W) → Expansion W (List Node)
  | [] => return []
  | i :: rest => do
    let placed ← Expansion.within (· ++ rowNodes rest) do
      let placed ← item i
      Expansion.noteStep o placed
      return placed
    let more ← Expansion.within (placed ++ ·) (expandItems o item rest)
    return placed ++ more

end HtmlTemplate.Expand
