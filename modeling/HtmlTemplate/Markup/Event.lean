/-!
# Markup events

What reading a source reports, piece by piece: tags with their attributes, character data and the
various declarations. Names are in small letters, character references are resolved, and an
attribute without a value has none.
-/

namespace HtmlTemplate.Markup

/-- One piece of a source. -/
inductive Event
  | startTag (tag : String) (attrs : List (String × Option String))
  /-- A start tag that ends with a slash and has no content. -/
  | emptyTag (tag : String) (attrs : List (String × Option String))
  | endTag (tag : String)
  | data (text : String)
  | comment (text : String)
  /-- A declaration `<!text>`. -/
  | declaration (text : String)
  /-- A processing instruction `<?text>`. -/
  | instruction (text : String)
  /-- A marked section `<![text]]>`, or one that ends with a single bracket. -/
  | markedSection (text : String)
deriving DecidableEq, Repr

end HtmlTemplate.Markup
