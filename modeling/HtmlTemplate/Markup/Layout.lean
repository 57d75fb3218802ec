import HtmlTemplate.Text.Blank
import HtmlTemplate.Markup.Builder
import HtmlTemplate.Markup.Render

/-!
# Layout of HTML

`layout` puts each block element and each text on a line of its own, indented by its depth. An
element with nothing but inline content stays on one line, and the content of `pre` and the like is
kept as it is. Runs of blanks become single spaces. `format` lays out a source; a source that
cannot be read is left alone.
-/

namespace HtmlTemplate.Markup

open HtmlTemplate.Text

/-- Joins the words of a text by single spaces and keeps one space for blanks at either end. -/
def collapse (data : String) : String :=
  let cs := data.toList
  if cs.isEmpty then ""
  else if cs.all isBlank then " "
  else
    (if cs.head?.any isBlank then " " else "") ++ squeeze data ++
      (if cs.getLast?.any isBlank then " " else "")

mutual

/-- Texts, and inline elements that hold nothing else. -/
def isInlineNode : Node → Bool
  | .text _ => true
  | .element tag _ children => isInline tag && allInline children
  | _ => false

def allInline : List Node → Bool
  | [] => true
  | n :: ns => isInlineNode n && allInline ns

end

mutual

/-- Writes an inline node on the line. -/
def renderInline : Node → String
  | .text data => escapeText (collapse data)
  | .element tag attrs children =>
    if isVoid tag && children.isEmpty then startTag tag attrs
    else startTag tag attrs ++ renderInlines children ++ endTag tag
  | n => renderNode false n

def renderInlines : List Node → String
  | [] => ""
  | n :: ns => renderInline n ++ renderInlines ns

end

/-- The indentation at a depth. -/
def indentation (depth : Nat) : String :=
  String.ofList (List.replicate (2 * depth) ' ')

mutual

/-- The lines of a node at a depth. -/
def layoutNode (depth : Nat) : Node → List String
  | .text data =>
    let line := squeeze data
    if line.isEmpty then [] else [indentation depth ++ escapeText line]
  | .element tag attrs children =>
    if isVerbatim tag || (isVoid tag && children.isEmpty) then
      [indentation depth ++ renderNode false (.element tag attrs children)]
    else if allInline children then
      [indentation depth ++ startTag tag attrs ++ strip (renderInlines children) ++ endTag tag]
    else
      (indentation depth ++ startTag tag attrs) ::
        layoutNodes (depth + 1) children ++ [indentation depth ++ endTag tag]
  | n => [indentation depth ++ renderNode false n]

/-- The lines of a forest at a depth. -/
def layoutNodes (depth : Nat) : List Node → List String
  | [] => []
  | n :: ns => layoutNode depth n ++ layoutNodes depth ns

end

/-- A forest laid out in lines, each ended by a line break. -/
def layout (forest : List Node) : String :=
  String.join ((layoutNodes 0 forest).map (· ++ "\n"))

/-- A source laid out in lines, or the source itself with the reason why it cannot be read. -/
def format (source : String) : String × Option ScanError :=
  match parse source with
  | .ok forest => (layout forest, none)
  | .error e => (source, some e)

end HtmlTemplate.Markup
