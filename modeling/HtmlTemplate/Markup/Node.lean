import HtmlTemplate.Bindings

/-!
# Document trees

A `Node` is a text, a comment, a directive, an element or a fragment. Trees are values: a copy of a
tree is the tree, and changing a tree means building another one. `Node.preorder` lists a tree in
document order; the searches are filters of that list.
-/

namespace HtmlTemplate.Markup

/-- Attributes of an element; one without a value holds the empty text. -/
abbrev Attrs := Bindings String

/-- A node of a document tree. -/
inductive Node
  /-- Character data. -/
  | text (data : String)
  /-- The data stand between the comment marks. -/
  | comment (data : String)
  /-- A declaration, processing instruction or marked section, without its angle brackets. -/
  | directive (data : String)
  | element (tag : String) (attrs : Attrs) (children : List Node)
  /-- A list of nodes without a tag of its own. -/
  | fragment (children : List Node)
  /-- A node of no kind and without content. -/
  | blank
deriving Inhabited, Repr

namespace Node

/-- The nodes directly inside a node. -/
def children : Node → List Node
  | element _ _ cs => cs
  | fragment cs => cs
  | _ => []

/-- The tag of an element. -/
def tag? : Node → Option String
  | element tag _ _ => some tag
  | _ => none

/-- The attributes of an element; other nodes have none. -/
def attrs : Node → Attrs
  | element _ attrs _ => attrs
  | _ => []

/-- Whether a node is an element. -/
def isElement : Node → Bool
  | element .. => true
  | _ => false

/-- Whether a node is an element with the given tag. -/
def hasTag (n : Node) (tag : String) : Bool :=
  n.tag? == some tag

mutual

/-- The node and all nodes inside it in document order. -/
def preorder : Node → List Node
  | element tag attrs cs => element tag attrs cs :: preorders cs
  | fragment cs => fragment cs :: preorders cs
  | n => [n]

/-- The nodes of a forest in document order. -/
def preorders : List Node → List Node
  | [] => []
  | n :: ns => preorder n ++ preorders ns

end

/-- The first node of a forest, in document order, that satisfies `p`. -/
def find? (p : Node → Bool) (forest : List Node) : Option Node :=
  (preorders forest).find? p

/-- The nodes of a forest that satisfy `p` in document order. -/
def findAll (p : Node → Bool) (forest : List Node) : List Node :=
  (preorders forest).filter p

mutual

/-- The text inside a node. -/
def innerText : Node → String
  | text data => data
  | element _ _ cs => innerTexts cs
  | fragment cs => innerTexts cs
  | _ => ""

/-- The text inside a forest. -/
def innerTexts : List Node → String
  | [] => ""
  | n :: ns => innerText n ++ innerTexts ns

end

mutual

/-- Equality of trees. -/
def same : Node → Node → Bool
  | text a, text b => a == b
  | comment a, comment b => a == b
  | directive a, directive b => a == b
  | element t a cs, element t' a' cs' => t == t' && a == a' && sames cs cs'
  | fragment cs, fragment cs' => sames cs cs'
  | blank, blank => true
  | _, _ => false

/-- Equality of forests. -/
def sames : List Node → List Node → Bool
  | [], [] => true
  | n :: ns, m :: ms => same n m && sames ns ms
  | _, _ => false

end

mutual

theorem same_iff : ∀ a b : Node, same a b = true ↔ a = b
  | text a, b => by cases b <;> simp [same]
  | comment a, b => by cases b <;> simp [same]
  | directive a, b => by cases b <;> simp [same]
  | element t a cs, b => by cases b <;> simp [same, sames_iff cs, and_assoc]
  | fragment cs, b => by cases b <;> simp [same, sames_iff cs]
  | blank, b => by cases b <;> simp [same]

theorem sames_iff : ∀ as bs : List Node, sames as bs = true ↔ as = bs
  | [], bs => by cases bs <;> simp [sames]
  | a :: as, bs => by cases bs <;> simp [sames, same_iff a, sames_iff as]

end

instance : DecidableEq Node := fun a b => decidable_of_iff _ (same_iff a b)

end Node

end HtmlTemplate.Markup
