import HtmlTemplate.Expand.Expansion
import HtmlTemplate.Naming

/-!
# Values in texts and attributes

The expressions in a text are replaced by the texts of their values. An attribute whose name starts
with the marker of evaluated attributes gives way to an attribute of the name behind the marker,
unless its value is absent.
-/

namespace HtmlTemplate.Expand

open HtmlTemplate.Markup HtmlTemplate.Text

variable {V W : Type}

/-- The text of a value in the output; an absent value has none. -/
def outputText (ev : Evaluator V W) (v : V) : Act W (Option String) := do
  match ev.kind v with
  | .absent => return none
  | _ => return some (← ev.text v)

/-- The text that takes the place of a piece of a text. -/
def pieceText (ev : Evaluator V W) (scope : Scope V) : Piece → Act W String
  | .plain text => return text
  | .hit caught => do
    let v ← match groupText? caught 1 with
      | some source => ev.evaluate source scope
      | none => ev.evaluateUncaught
    return (← outputText ev v).getD ""

/-- The texts that take the places of pieces of a text. -/
def pieceTexts (ev : Evaluator V W) (scope : Scope V) : List Piece → Act W (List String)
  | [] => return []
  | p :: ps => do
    let s ← pieceText ev scope p
    return s :: (← pieceTexts ev scope ps)

/-- Replaces the expressions in a text. -/
def expandText (setting : Setting V W) (place : Place V) (data : String) :
    Expansion W (List Node) := do
  let pieces := setting.options.contentPattern.pieces data
  let texts ← Expansion.compute place [.text data]
    (pieceTexts setting.evaluator place.scope pieces)
  return [.text (String.join texts)]

/-- The name of the attribute that an evaluated attribute sets. -/
def evaluatedName? (marker name : String) : Option String :=
  match Naming.splitColons 2 name with
  | some [m, target] => if m == marker then some target else none
  | _ => none

/-- The value that an attribute gets from an expression, unless it is left out. -/
def attributeText (ev : Evaluator V W) (source : String) (scope : Scope V) :
    Act W (Option String) := do
  let v ← ev.evaluate source scope
  match ev.kind v with
  | .present => return some ""
  | _ => outputText ev v

/-- Evaluates the evaluated attributes out of those with the given names; `around` gives the nodes
that an element with the given attributes is a part of. -/
def evaluateAttrs (setting : Setting V W) (place : Place V) (around : Attrs → List Node) :
    List String → Attrs → Expansion W Attrs
  | [], attrs => return attrs
  | name :: names, attrs => do
    match evaluatedName? setting.options.evalMarker name, attrs.get? name with
    | some target, some source =>
      let attrs := attrs.erase name
      let value? ← Expansion.compute place (around attrs)
        (attributeText setting.evaluator source place.scope)
      match value? with
      | some value => evaluateAttrs setting place around names (attrs.put target value)
      | none => evaluateAttrs setting place around names attrs
    | _, _ => evaluateAttrs setting place around names attrs

/-- Replaces the tag of a dynamic element by the value of its `tag` attribute; without a value the
element gives way to its children. -/
def expandDynamic (setting : Setting V W) (place : Place V) (tag : String) (attrs : Attrs)
    (children : List Node) (inside : Expansion W (List Node)) : Expansion W (List Node) := do
  let ev := setting.evaluator
  let here (cs : List Node) : List Node := [.element tag attrs cs]
  match attrs.get? "tag" with
  | none => Expansion.refuse place (here children) (.missingAttribute tag ["tag"])
  | some source =>
    let v ← Expansion.compute place (here children) (ev.evaluate source place.scope)
    let cs ← Expansion.within here inside
    let unfit : Expansion W (List Node) := do
      let value ← Expansion.compute place (here cs) (ev.shown v)
      Expansion.refuse place (here cs) (.invalidValue
        ("<" ++ tag ++ "> 'tag' must evaluate to a tag name without whitespace, None or False")
        (some source) value)
    match ev.kind v with
    | .absent => return cs
    | .text name =>
      if name.isEmpty || hasBlank name then unfit
      else return [.element name (attrs.erase "tag") cs]
    | _ => unfit

end HtmlTemplate.Expand
