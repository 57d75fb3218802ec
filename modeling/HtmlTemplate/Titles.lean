import HtmlTemplate.Markup.Node
import HtmlTemplate.Options

/-!
# Titles

In a whole document, one with an `html` element, the deepest title of the body moves to the head, and
of several equally deep ones the last. All other titles of body and head vanish. In a part of a
document titles stay or vanish as the options say.
-/

namespace HtmlTemplate.Titles

open HtmlTemplate.Markup

mutual

/-- A tree without the titles inside it. -/
def withoutTitles : Node → Node
  | .element t attrs cs => .element t attrs (dropTitles cs)
  | .fragment cs => .fragment (dropTitles cs)
  | n => n

/-- A forest without the titles in it. -/
def dropTitles : List Node → List Node
  | [] => []
  | n :: ns => if n.hasTag "title" then dropTitles ns else withoutTitles n :: dropTitles ns

end

mutual

/-- The titles in a tree with their depths, where the tree lies at the given depth. The depth inside
a title counts from that title. -/
def titlesIn (depth : Nat) : Node → List (Node × Nat)
  | .element t attrs cs =>
    if t == "title" then (.element t attrs (dropTitles cs), depth) :: titlesAmong 1 cs
    else titlesAmong (depth + 1) cs
  | .fragment cs => titlesAmong (depth + 1) cs
  | _ => []

/-- The titles in a forest with their depths. -/
def titlesAmong (depth : Nat) : List Node → List (Node × Nat)
  | [] => []
  | n :: ns => titlesIn depth n ++ titlesAmong depth ns

end

/-- The deepest of some titles, and of several equally deep ones the last. -/
def deepest? (titles : List (Node × Nat)) : Option (Node × Nat) :=
  titles.foldl (fun best? t =>
    match best? with
    | some best => if best.2 ≤ t.2 then some t else some best
    | none => some t) none

/-- The title that goes from the body of a document to its head, given the children of the
document. -/
def bodyTitle? (children : List Node) : Option Node :=
  match children.find? (·.hasTag "body") with
  | none => none
  | some body => (deepest? (titlesAmong 0 body.children)).map (·.1)

/-- A head with a title and without those that it had. -/
def headWith (title : Node) : Node → Node
  | .element t attrs cs => .element t attrs (dropTitles cs ++ [title])
  | n => n

/-- Puts a head with a title in front of the children of a document that has none. -/
def ensureHead (title? : Option Node) (children : List Node) : List Node :=
  match title? with
  | some title =>
    if children.any (·.hasTag "head") then children else .element "head" [] [title] :: children
  | none => children

mutual

/-- Moves titles in the documents of a tree. -/
def relocateIn : Node → Node
  | .element t attrs cs =>
    if t == "html" then
      let title? := bodyTitle? cs
      .element t attrs (ensureHead title? (relocateChildren title? false false cs))
    else .element t attrs (relocateAmong cs)
  | .fragment cs => .fragment (relocateAmong cs)
  | n => n

/-- Moves titles in the documents of a forest. -/
def relocateAmong : List Node → List Node
  | [] => []
  | n :: ns => relocateIn n :: relocateAmong ns

/-- Takes the titles out of the first body among the children of a document, and puts the title, if
any, into the first head; the truth values tell whether these have been met. -/
def relocateChildren (title? : Option Node) (bodyMet headMet : Bool) : List Node → List Node
  | [] => []
  | n :: ns =>
    if n.hasTag "body" && !bodyMet then
      withoutTitles n :: relocateChildren title? true headMet ns
    else if n.hasTag "head" && !headMet then
      match title? with
      | some title => headWith title n :: relocateChildren title? bodyMet true ns
      | none => relocateIn n :: relocateChildren title? bodyMet true ns
    else relocateIn n :: relocateChildren title? bodyMet headMet ns

end

/-- Moves or removes the titles of a forest. -/
def relocate (rule : TitleRule) (forest : List Node) : List Node :=
  if (Node.find? (·.hasTag "html") forest).isSome then relocateAmong forest
  else
    match rule with
    | .preserve => forest
    | .remove => dropTitles forest

end HtmlTemplate.Titles
