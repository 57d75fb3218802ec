import HtmlTemplate.Expand.Expansion
import HtmlTemplate.Markup.Linked
import HtmlTemplate.Script.Token

/-!
# Loops

The content of a loop is expanded once for each member of a sequence, in a scope that binds the
member to a name. The expansions follow each other in the place of the loop. The sequence is looked
at again before every round, as its members may change on the way.
-/

namespace HtmlTemplate.Expand

open HtmlTemplate.Markup HtmlTemplate.Text

variable {V W : Type}

/-- The number of members by which a sequence may grow while a loop goes through it. -/
def growthLimit : Nat := 1000000

/-- The expansions of the content for the members of a sequence from a position on, for at most so
many of them. -/
def expandRounds (setting : Setting V W) (place : Place V) (loop : Node) (items : V)
    (name : String) (inside : Place V → Expansion W (List Node)) :
    Nat → Nat → Expansion W (List Node)
  | 0, _ => Expansion.stop place [loop] (.raised .exhausted)
  | fuel + 1, position => do
    match ← Expansion.compute place [loop] (setting.evaluator.member? items position) with
    | none => return []
    | some v =>
      if loop.children.all Store.isCopyable then
        let body ← Expansion.apart (fun _ => [loop]) (inside (place.inner [(name, v)]))
        let more ← expandRounds setting place loop items name inside fuel (position + 1)
        return body ++ more
      else Expansion.stop place [loop] .uncopyable

/-- Expands a loop. -/
def expandLoop (setting : Setting V W) (place : Place V) (tag : String) (attrs : Attrs)
    (children : List Node) (inside : Place V → Expansion W (List Node)) :
    Expansion W (List Node) := do
  let ev := setting.evaluator
  let loop := Node.element tag attrs children
  match attrs.get? "item", attrs.get? "in" with
  | some name, some source =>
    if !isIdentifier name || Script.reservedWords.contains name then
      Expansion.refuse place [loop] (.runtime
        ("<" ++ tag ++ "> 'item' must be a valid identifier, got " ++ quote name) none [])
    else
      let items ← Expansion.compute place [loop] (ev.evaluate source place.scope)
      match ← Expansion.observe (ev.length? items) with
      | some length =>
        expandRounds setting place loop items name inside (length + growthLimit + 1) 0
      | none =>
        let value ← Expansion.compute place [loop] (ev.shown items)
        Expansion.stop place [loop] (.diagnostic {
          problem := .invalidValue ("<" ++ tag ++ "> 'in' must evaluate to a sequence")
            (some source) value
          hint? := some "Wrap other iterables in list(...)" })
  | item?, in? =>
    Expansion.refuse place [loop] (.missingAttribute tag
      ((if item?.isNone then ["item"] else []) ++ (if in?.isNone then ["in"] else [])))

end HtmlTemplate.Expand
