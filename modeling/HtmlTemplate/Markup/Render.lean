import HtmlTemplate.Markup.Node
import HtmlTemplate.Markup.Vocabulary

/-!
# From a tree to HTML

`render` writes a forest. Attributes are always written with a value in double quotes; void
elements without children have no end tag and all other elements have one. Text is escaped, except
directly inside `script` and `style`.
-/

namespace HtmlTemplate.Markup

/-- How a character of a text is written. -/
def escapeTextChar (c : Char) : List Char :=
  if c = '&' then "&amp;".toList
  else if c = '<' then "&lt;".toList
  else if c = '>' then "&gt;".toList
  else [c]

/-- How a character of an attribute value is written. -/
def escapeAttrChar (c : Char) : List Char :=
  if c = '&' then "&amp;".toList
  else if c = '"' then "&quot;".toList
  else [c]

/-- A text in written form. -/
def escapeText (data : String) : String :=
  String.ofList (data.toList.flatMap escapeTextChar)

/-- An attribute value in written form. -/
def escapeAttr (value : String) : String :=
  String.ofList (value.toList.flatMap escapeAttrChar)

/-- Attributes in written form, each after a space. -/
def renderAttrs : Attrs → String
  | [] => ""
  | (name, value) :: rest => " " ++ name ++ "=\"" ++ escapeAttr value ++ "\"" ++ renderAttrs rest

/-- The start tag of an element. -/
def startTag (tag : String) (attrs : Attrs) : String :=
  "<" ++ tag ++ renderAttrs attrs ++ ">"

/-- The end tag of an element. -/
def endTag (tag : String) : String :=
  "</" ++ tag ++ ">"

mutual

/-- Writes a node; `raw` tells that its text is written as it is. -/
def renderNode (raw : Bool) : Node → String
  | .text data => if raw then data else escapeText data
  | .comment data => "<!--" ++ data ++ "-->"
  | .directive data => "<" ++ data ++ ">"
  | .element tag attrs children =>
    if isVoid tag && children.isEmpty then startTag tag attrs
    else startTag tag attrs ++ renderNodes (isRawText tag) children ++ endTag tag
  | .fragment children => renderNodes raw children
  | .blank => ""

/-- Writes nodes one after the other. -/
def renderNodes (raw : Bool) : List Node → String
  | [] => ""
  | n :: ns => renderNode raw n ++ renderNodes raw ns

end

/-- Writes a forest. -/
def render (forest : List Node) : String :=
  renderNodes false forest

end HtmlTemplate.Markup
