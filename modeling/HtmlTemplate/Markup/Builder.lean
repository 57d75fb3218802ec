import HtmlTemplate.Markup.Node
import HtmlTemplate.Markup.Scanner

/-!
# From events to a tree

A `Builder` takes one event after another. It keeps the elements that are still open, innermost
first, each with the children it has so far. Void and empty tags open nothing; an end tag closes
the innermost open element of its name with everything opened inside it, or does nothing. Text
that follows text joins it, and of a repeated attribute the first value counts.
-/

namespace HtmlTemplate.Markup

/-- An element that is still open, with its children so far, the latest first. -/
structure OpenElement where
  tag : String
  attrs : Attrs
  before : List Node

/-- A tree under construction. -/
structure Builder where
  /-- Finished nodes outside all open elements, the latest first. -/
  top : List Node := []
  /-- Open elements, the innermost first. -/
  opened : List OpenElement := []

namespace Builder

/-- The children so far of the innermost open element, the latest first. -/
def current (b : Builder) : List Node :=
  match b.opened with
  | [] => b.top
  | e :: _ => e.before

/-- Replaces the children of the innermost open element. -/
def setCurrent (b : Builder) (nodes : List Node) : Builder :=
  match b.opened with
  | [] => { b with top := nodes }
  | e :: es => { b with opened := { e with before := nodes } :: es }

/-- Adds a node to the innermost open element. -/
def add (b : Builder) (n : Node) : Builder :=
  b.setCurrent (n :: b.current)

/-- Adds text, joining it to text right before it. -/
def addText (b : Builder) (data : String) : Builder :=
  match b.current with
  | .text before :: rest => b.setCurrent (.text (before ++ data) :: rest)
  | _ => b.add (.text data)

/-- Closes the innermost open element. -/
def closeInnermost (b : Builder) : Builder :=
  match b.opened with
  | [] => b
  | e :: es => ({ b with opened := es } : Builder).add (.element e.tag e.attrs e.before.reverse)

/-- Closes the given number of open elements. -/
def closeMany : Nat → Builder → Builder
  | 0, b => b
  | n + 1, b => closeMany n b.closeInnermost

/-- Closes the innermost open element with the given tag and everything inside it. -/
def close (b : Builder) (tag : String) : Builder :=
  match b.opened.findIdx? (·.tag == tag) with
  | some i => closeMany (i + 1) b
  | none => b

/-- The attributes of a tag: the first value of each name counts. -/
def attrsOf (attrs : List (String × Option String)) : Attrs :=
  attrs.foldl (fun acc a => Bindings.putNew acc a.1 (a.2.getD "")) []

/-- Takes an event. -/
def take (b : Builder) : Event → Builder
  | .startTag tag attrs =>
    if isVoid tag then b.add (.element tag (attrsOf attrs) [])
    else { b with opened := ⟨tag, attrsOf attrs, []⟩ :: b.opened }
  | .emptyTag tag attrs => b.add (.element tag (attrsOf attrs) [])
  | .endTag tag => b.close tag
  | .data text => b.addText text
  | .comment text => b.add (.comment text)
  | .declaration text => b.add (.directive ("!" ++ text))
  | .instruction text => b.add (.directive ("?" ++ text))
  | .markedSection text => b.add (.directive ("![" ++ text ++ "]]"))

/-- Takes events in order. -/
def takeAll (b : Builder) (events : List Event) : Builder :=
  events.foldl take b

/-- The tree so far, as if all open elements were closed here. -/
def tree (b : Builder) : List Node :=
  (closeMany b.opened.length b).top.reverse

end Builder

/-- The tree of a source that comes in chunks. -/
def parseChunks (chunks : List String) : Except ScanError (List Node) :=
  go {} {} chunks
where
  /-- Feeds the chunks that are left. -/
  go (s : Scanner) (b : Builder) : List String → Except ScanError (List Node)
    | [] =>
      match s.feed "" true with
      | .error e => .error e
      | .ok (events, _) => .ok (b.takeAll events).tree
    | chunk :: chunks =>
      match s.feed chunk false with
      | .error e => .error e
      | .ok (events, s') => go s' (b.takeAll events) chunks

/-- The tree of a source. -/
def parse (source : String) : Except ScanError (List Node) :=
  parseChunks [source]

end HtmlTemplate.Markup
