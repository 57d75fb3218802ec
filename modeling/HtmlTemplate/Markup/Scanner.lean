import HtmlTemplate.Text.Letter
import HtmlTemplate.Text.Quoted
import HtmlTemplate.Text.Blank
import HtmlTemplate.Markup.CharRef
import HtmlTemplate.Markup.Event
import HtmlTemplate.Markup.Vocabulary

/-!
# From a source to its events

`Scanner.feed` cuts a source into events. It is lenient: what is no tag is text. A source may come
in several chunks; a construct that a chunk does not complete waits in the scanner, and at the end
of the source becomes text. Inside `script` and `style` everything up to the end tag is text.
-/

namespace HtmlTemplate.Markup

open HtmlTemplate.Text

/-- Marked sections that cannot be read. -/
inductive ScanError
  /-- No name follows the opening bracket; the argument is the beginning of the section. -/
  | nameExpected (section_ : String)
  /-- The name is not that of a kind of section. -/
  | unknownSection (name : String)
deriving DecidableEq, Repr

/-- The wording of a scan error. -/
def ScanError.message : ScanError → String
  | nameExpected s => "expected name token at " ++ quote s
  | unknownSection s => "unknown status keyword " ++ quote s ++ " in marked section"

/-- Outcome of reading one construct: the events, the raw text element entered, what is left. -/
structure Scanned where
  events : List Event
  raw? : Option String
  rest : List Char

/-! ### Ends of constructs -/

/-- Cuts a text at the first place where `close` matches: the text before, the text from there on,
and the text after the match. -/
def cutAt (close : List Char → Option (List Char)) : List Char →
    Option (List Char × List Char × List Char)
  | [] => (close []).map ([], [], ·)
  | c :: cs =>
    match close (c :: cs) with
    | some after => some ([], c :: cs, after)
    | none => (cutAt close cs).map fun cut => (c :: cut.1, cut.2)

/-- Matches one character. -/
def closeChar (c : Char) : List Char → Option (List Char)
  | d :: cs => if d = c then some cs else none
  | [] => none

/-- Matches a row of characters with blanks allowed before each one but the first. -/
def closeSpaced : List Char → List Char → Option (List Char)
  | [], cs => some cs
  | c :: more, cs =>
    match closeChar c cs with
    | none => none
    | some cs' => closeSpaced more (if more.isEmpty then cs' else cs'.dropWhile isBlank)

/-- Matches the end of a comment. -/
def closeComment : List Char → Option (List Char)
  | '-' :: '-' :: cs => closeChar '>' (cs.dropWhile isBlank)
  | _ => none

/-- Matches a word up to letter case. -/
def closeWord : List Char → List Char → Option (List Char)
  | [], cs => some cs
  | w :: ws, c :: cs => if sameLetter w c then closeWord ws cs else none
  | _ :: _, [] => none

/-- Matches the end tag of a raw text element. -/
def closeRaw (tag : String) : List Char → Option (List Char)
  | '<' :: '/' :: cs =>
    (closeWord tag.toList (cs.dropWhile isBlank)).bind fun cs' =>
      closeChar '>' (cs'.dropWhile isBlank)
  | _ => none

/-! ### Start tags -/

/-- Characters that a tag name may hold after its first letter. -/
def isTagChar (c : Char) : Bool :=
  !(c == '\t' || c == '\n' || c == '\r' || c == '\x0c' || c == ' ' || c == '/' || c == '>' ||
    c == '\x00')

/-- Characters that an attribute may follow. -/
def opensAttr (c : Char) : Bool :=
  c == '\'' || c == '"' || c == '/' || isBlank c

/-- Characters that an attribute name may begin with. -/
def isAttrStart (c : Char) : Bool :=
  !(isBlank c || c == '/' || c == '>')

/-- Characters that an attribute name may go on with. -/
def isAttrChar (c : Char) : Bool :=
  !(isBlank c || c == '/' || c == '=' || c == '>')

/-- Characters of a value without quotes. -/
def isBareChar (c : Char) : Bool :=
  !(c == '>' || isBlank c)

/-- A text after a cut, together with the character before it. -/
structure Spot where
  last : Char
  rest : List Char

/-- Moves over the characters at the front that satisfy `p`. -/
def Spot.skip (p : Char → Bool) (s : Spot) : Spot :=
  ⟨(s.rest.takeWhile p).getLastD s.last, s.rest.dropWhile p⟩

/-- Moves over blanks and over slashes that do not end a tag. -/
def skipGap : Char → List Char → Spot
  | last, [] => ⟨last, []⟩
  | last, c :: cs =>
    if isBlank c || (c == '/' && cs.head? != some '>') then skipGap c cs else ⟨last, c :: cs⟩

/-- The value between a quotation mark and its next occurrence. -/
def quotedValue (mark : Char) (cs : List Char) : Option (List Char × Spot) :=
  (cutAt (closeChar mark) cs).map fun cut => (cut.1, ⟨mark, cut.2.2⟩)

/-- A value without quotes, which may be empty. -/
def bareValue (last : Char) (cs : List Char) : List Char × Spot :=
  let value := cs.takeWhile isBareChar
  (value, ⟨value.getLastD last, cs.dropWhile isBareChar⟩)

/-- The value after an attribute name: an equals sign, or several, and then a quoted text or one
without quotes. When a quotation mark has no partner, a blank before it ends an empty value, and
the last of several equals signs begins one without quotes. -/
def attrValue? (cs : List Char) : Option (List Char × Spot) :=
  let signs := (cs.dropWhile isBlank).takeWhile (· == '=')
  let tail := (cs.dropWhile isBlank).dropWhile (· == '=')
  let gap := tail.takeWhile isBlank
  let body := tail.dropWhile isBlank
  if signs.isEmpty then none
  else
    let fallback : Option (List Char × Spot) :=
      match gap.getLast? with
      | some g => some ([], ⟨(gap.dropLast).getLastD '=', g :: body⟩)
      | none => if signs.length = 1 then none else some (bareValue '=' ('=' :: body))
    match body with
    | '\'' :: cs' => (quotedValue '\'' cs').orElse fun _ => fallback
    | '"' :: cs' => (quotedValue '"' cs').orElse fun _ => fallback
    | _ => some (bareValue (gap.getLastD '=') body)

/-- The attribute at a spot: its name, its value, and the spot after the gap that follows it. -/
def attrAt (s : Spot) : Option ((List Char × Option (List Char)) × Spot) :=
  match s.rest with
  | [] => none
  | c :: cs =>
    if opensAttr s.last && isAttrStart c then
      let name := c :: cs.takeWhile isAttrChar
      let tail := cs.dropWhile isAttrChar
      match attrValue? tail with
      | some (value, after) => some ((name, some value), skipGap after.last after.rest)
      | none => some ((name, none), skipGap (name.getLastD c) tail)
    else none

/-- The attributes from a spot on, and the spot after them. -/
def attrsFrom (s : Spot) : List (List Char × Option (List Char)) × Spot :=
  match attrAt s with
  | none => ([], s)
  | some (attr, after) =>
    if _h : after.rest.length < s.rest.length then
      let more := attrsFrom after
      (attr :: more.1, more.2)
    else ([attr], after)
termination_by s.rest.length

/-- What follows the part of a start tag that reads as a name and attributes. -/
inductive TagEnd
  | incomplete
  /-- The tag ends where this text begins. -/
  | at (rest : List Char)

/-- Where a start tag ends that has been read up to `cs`. -/
def tagEnd (cs : List Char) : TagEnd :=
  match cs with
  | [] => .incomplete
  | '>' :: rest => .at rest
  | '/' :: '>' :: rest => .at rest
  | c :: _ => if c == '/' || c == '=' || c.isAlpha then .incomplete else .at cs

/-- An attribute as it is reported: a small name and a value without character references. -/
def reportAttr (attr : List Char × Option (List Char)) : String × Option String :=
  (lowercase (String.ofList attr.1), attr.2.map fun v => String.ofList (decodeRefs v))

/-- Reads a start tag; `cs` is the text after its opening bracket. -/
def scanStartTag (cs : List Char) : Option Scanned :=
  let name := cs.takeWhile isTagChar
  let tail := cs.dropWhile isTagChar
  let last := name.getLastD '<'
  let extent := (attrsFrom (Spot.skip (fun c => isBlank c || c == '/') ⟨last, tail⟩)).2
  match tagEnd (extent.rest.dropWhile isBlank) with
  | .incomplete => none
  | .at rest =>
    let whole := cs.take (cs.length - rest.length)
    let found := attrsFrom (skipGap last (whole.dropWhile isTagChar))
    let ending := trim found.2.rest
    let tag := lowercase (String.ofList name)
    let attrs := found.1.map reportAttr
    if ending = ['/', '>'] then some ⟨[.emptyTag tag attrs], none, rest⟩
    else if ending = ['>'] then
      some ⟨[.startTag tag attrs], if isRawText tag then some tag else none, rest⟩
    else some ⟨[.data (String.ofList ('<' :: whole))], none, rest⟩

/-! ### Other constructs -/

/-- Reads a construct that ends at the next closing bracket; `cs` is the text after its opening. -/
def scanToBracket (event : String → Event) (cs : List Char) : Option Scanned :=
  (cutAt (closeChar '>') cs).map fun cut => ⟨[event (String.ofList cut.1)], none, cut.2.2⟩

/-- Characters that the name in a well-formed end tag may hold after its first letter. -/
def isEndTagChar (c : Char) : Bool :=
  c.isAlphanum || c == '-' || c == '.' || c == ':' || c == '_'

/-- The name in a well-formed end tag, and the text after the tag. -/
def plainEndTag? (cs : List Char) : Option (List Char × List Char) :=
  let body := cs.dropWhile isBlank
  match body with
  | c :: _ =>
    if c.isAlpha then
      (closeChar '>' ((body.dropWhile isEndTagChar).dropWhile isBlank)).map
        fun rest => (body.takeWhile isEndTagChar, rest)
    else none
  | [] => none

/-- Reads an end tag; `cs` is the text after its opening. -/
def scanEndTag (raw? : Option String) (cs : List Char) : Option Scanned :=
  match cutAt (closeChar '>') cs with
  | none => none
  | some (inside, _, rest) =>
    let asText : Scanned := ⟨[.data (String.ofList ('<' :: '/' :: inside ++ ['>']))], raw?, rest⟩
    match plainEndTag? cs with
    | some (name, rest') =>
      let tag := lowercase (String.ofList name)
      match raw? with
      | some open_ => if tag = open_ then some ⟨[.endTag tag], none, rest'⟩ else some asText
      | none => some ⟨[.endTag tag], none, rest'⟩
    | none =>
      match raw?, cs with
      | some _, _ => some asText
      | none, c :: _ =>
        if c.isAlpha then
          let name := cs.takeWhile isTagChar
          let after := skipGap '<' (cs.dropWhile isTagChar)
          (cutAt (closeChar '>') after.rest).map fun cut =>
            ⟨[.endTag (lowercase (String.ofList name))], none, cut.2.2⟩
        else if c = '>' then some ⟨[], none, rest⟩
        else some ⟨[.comment (String.ofList inside)], none, rest⟩
      | none, [] => none

/-- Characters that the name of a marked section may hold after its first letter. -/
def isSectionChar (c : Char) : Bool :=
  c.isAlphanum || c == '-' || c == '_' || c == '.'

/-- How a marked section of the given kind ends. -/
def closeSection? (kind : String) : Option (List Char → Option (List Char)) :=
  if ["temp", "cdata", "ignore", "include", "rcdata"].contains kind then
    some (closeSpaced [']', ']', '>'])
  else if ["if", "else", "endif"].contains kind then some (closeSpaced [']', '>'])
  else none

/-- Reads a marked section; `cs` is the text after its opening. -/
def scanSection (cs : List Char) : Except ScanError (Option Scanned) :=
  match cs with
  | [] => .ok none
  | c :: _ =>
    if c.isAlpha then
      let name := cs.takeWhile isSectionChar
      let gap := (cs.dropWhile isSectionChar).takeWhile isBlank
      if name.length + gap.length = cs.length then .ok none
      else match closeSection? (lowercase (String.ofList name)) with
        | none => .error (.unknownSection (String.ofList (name ++ gap)))
        | some close =>
          .ok ((cutAt close cs).map fun cut =>
            ⟨[.markedSection (String.ofList cut.1)], none, cut.2.2⟩)
    else .error (.nameExpected (String.ofList (('<' :: '!' :: '[' :: cs).take 20)))

/-- Reads what begins with an exclamation mark; `cs` is the text after it. -/
def scanDeclaration (cs : List Char) : Except ScanError (Option Scanned) :=
  match cs with
  | '-' :: '-' :: body =>
    .ok ((cutAt closeComment body).map fun cut =>
      ⟨[.comment (String.ofList cut.1)], none, cut.2.2⟩)
  | '[' :: body => scanSection body
  | _ =>
    if lowercase (String.ofList (cs.take 7)) = "doctype" then
      .ok ((cutAt (closeChar '>') (cs.drop 7)).map fun cut =>
        ⟨[.declaration (String.ofList (cs.take 7 ++ cut.1))], none, cut.2.2⟩)
    else .ok (scanToBracket .comment cs)

/-- Reads the construct at an opening bracket; `cs` is the text after the bracket. The outcome is
none when the text breaks off inside the construct. -/
def scanConstruct (raw? : Option String) (cs : List Char) : Except ScanError (Option Scanned) :=
  match cs with
  | [] => .ok none
  | '/' :: body => .ok (scanEndTag raw? body)
  | '!' :: body => scanDeclaration body
  | '?' :: body => .ok (scanToBracket .instruction body)
  | c :: _ =>
    if c.isAlpha then .ok (scanStartTag cs) else .ok (some ⟨[.data "<"], raw?, cs⟩)

/-! ### The loop -/

/-- Text as it stands, or with its character references resolved outside raw text elements. -/
def dataEvent (raw? : Option String) (cs : List Char) : Event :=
  .data (String.ofList (if raw?.isSome then cs else decodeRefs cs))

/-- Whether a text without brackets may still end inside a character reference. -/
def awaitsRef (cs : List Char) : Bool :=
  let tail := cs.drop (cs.length - 34)
  tail.contains '&' &&
    !((tail.reverse.takeWhile (· != '&')).any fun c => isBlank c || c == ';')

/-- How much of a construct that breaks off at the end of the source becomes text: up to the next
closing bracket, or else up to the next opening one, or else only the bracket that opens it. -/
def brokenLength (cs : List Char) : Nat :=
  match cs.findIdx? (· == '>') with
  | some i => i + 1
  | none => (cs.findIdx? (· == '<')).getD 0

/-- A scanner between two chunks. -/
structure Scanner where
  /-- Text not reported yet. -/
  pending : List Char := []
  /-- The raw text element that the scanner is in. -/
  raw? : Option String := none

/-- The place of the next construct: the text before it, and the text from there on. -/
def nextConstruct (raw? : Option String) (cs : List Char) : Option (List Char × List Char) :=
  match raw? with
  | some tag => (cutAt (closeRaw tag) cs).map fun cut => (cut.1, cut.2.1)
  | none => (cutAt (closeChar '<') cs).map fun cut => (cut.1, cut.2.1)

/-- Events of a text; at the end of a source nothing waits. -/
def scan (final : Bool) (raw? : Option String) (cs : List Char) :
    Except ScanError (List Event × Scanner) :=
  if cs.isEmpty then .ok ([], ⟨[], raw?⟩)
  else match nextConstruct raw? cs with
  | none =>
    if raw?.isSome then .ok ([], ⟨cs, raw?⟩)
    else if !final && awaitsRef cs then .ok ([], ⟨cs, raw?⟩)
    else .ok ([dataEvent raw? cs], ⟨[], raw?⟩)
  | some (before, from_) =>
    let lead := if before.isEmpty then [] else [dataEvent raw? before]
    let body := from_.drop 1
    match scanConstruct raw? body with
    | .error e => .error e
    | .ok (some s) =>
      if _h : s.rest.length < cs.length then
        match scan final s.raw? s.rest with
        | .error e => .error e
        | .ok (more, state) => .ok (lead ++ s.events ++ more, state)
      else .ok (lead ++ s.events, ⟨[], s.raw?⟩)
    | .ok none =>
      if final then
        let n := brokenLength body
        let rest := body.drop n
        if _h : rest.length < cs.length then
          match scan final raw? rest with
          | .error e => .error e
          | .ok (more, state) =>
            .ok (lead ++ dataEvent raw? (from_.take (n + 1)) :: more, state)
        else .ok (lead, ⟨[], raw?⟩)
      else .ok (lead, ⟨from_, raw?⟩)
termination_by cs.length
decreasing_by all_goals assumption

/-- The scanner reads one more chunk; `final` tells that the source ends with it. -/
def Scanner.feed (s : Scanner) (chunk : String) (final : Bool) :
    Except ScanError (List Event × Scanner) :=
  scan final s.raw? (s.pending ++ chunk.toList)

end HtmlTemplate.Markup
