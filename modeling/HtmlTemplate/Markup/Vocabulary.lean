/-!
# Element vocabulary

The kinds of HTML elements that reading, writing and layout treat differently.
-/

namespace HtmlTemplate.Markup

/-- Elements that never have children or an end tag. -/
def voidTags : List String :=
  ["area", "base", "br", "col", "embed", "hr", "img", "input", "link", "meta", "source", "track",
    "wbr"]

/-- Elements whose text is written as it is. -/
def rawTextTags : List String := ["script", "style"]

/-- Elements whose content layout must not touch. -/
def verbatimTags : List String := ["pre", "textarea", "script", "style"]

/-- Elements that stay on the line of the text around them. -/
def inlineTags : List String :=
  ["a", "abbr", "b", "bdi", "bdo", "br", "cite", "code", "data", "dfn", "em", "i", "img", "input",
    "kbd", "label", "mark", "q", "s", "samp", "select", "small", "span", "strong", "sub", "sup",
    "time", "u", "var", "wbr"]

def isVoid (tag : String) : Bool := voidTags.contains tag

def isRawText (tag : String) : Bool := rawTextTags.contains tag

def isVerbatim (tag : String) : Bool := verbatimTags.contains tag

def isInline (tag : String) : Bool := inlineTags.contains tag

end HtmlTemplate.Markup
