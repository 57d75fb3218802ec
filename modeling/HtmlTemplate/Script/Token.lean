import HtmlTemplate.Script.QuotedText
import HtmlTemplate.Text.Blank
import HtmlTemplate.Text.ComposedForm
import HtmlTemplate.Text.Letter

/-!
# Tokens

The words of a program text. `tokens` cuts a text into names, reserved words, literals and signs,
and marks where lines end and where blocks begin and end. A text that cannot be cut ends in a
`Token.flawed`, so that a flaw counts only when reading gets that far.
-/

namespace HtmlTemplate.Script

open HtmlTemplate.Number HtmlTemplate.Text

/-- What can be wrong with a program text. -/
inductive Flaw
  /-- It does not follow the grammar. -/
  | malformed
  /-- A line is not indented as its place demands. -/
  | misindented
  /-- The depth of a line depends on the width of a tab. -/
  | mixedIndentation
  /-- It holds the character that no program may hold. -/
  | nullCharacter
  /-- It holds half of a surrogate pair. -/
  | surrogate
deriving DecidableEq, Repr

/-- Tokens. -/
inductive Token
  | name (name : String)
  | word (word : String)
  | literal (l : Literal)
  | template (parts : List TemplatePart)
  | sign (sign : String)
  | newline
  | indent
  | dedent
  | stop
  | flawed (flaw : Flaw)
deriving Repr, Inhabited

/-- Names that are part of the grammar. -/
def reservedWords : List String := [
  "False", "None", "True", "and", "as", "assert", "async", "await", "break", "class", "continue",
  "def", "del", "elif", "else", "except", "finally", "for", "from", "global", "if", "import", "in",
  "is", "lambda", "nonlocal", "not", "or", "pass", "raise", "return", "try", "while", "with",
  "yield"]

/-- Signs, longer ones before those they begin with. -/
def signs : List (List Char) := [
  "**=", "//=", ">>=", "<<=", "...", "!=", "**", "//", ">>", "<<", "<=", ">=", "==", "->", "+=",
  "-=", "*=", "/=", "%=", "@=", "&=", "|=", "^=", ":=", "+", "-", "*", "/", "%", "@", "&", "|",
  "^", "~", "<", ">", "(", ")", "[", "]", "\x7b", "\x7d", ",", ":", ";", ".", "="].map
  String.toList

/-! ### Numbers -/

/-- Whether underscores stand only between digits. -/
def underscoresFit : List Char → Bool
  | [] => true
  | '_' :: [] => false
  | '_' :: '_' :: _ => false
  | _ :: cs => underscoresFit cs

/-- Splits off a run of digits and underscores. -/
def digitRun (isDigit : Char → Bool) (cs : List Char) : List Char × List Char :=
  cs.span fun c => isDigit c || c == '_'

/-- The base that a letter after a leading zero stands for, and its digits. -/
def baseOf? (c : Char) : Option (Nat × (Char → Bool)) :=
  if c == 'x' || c == 'X' then some (16, isHexDigit)
  else if c == 'o' || c == 'O' then some (8, fun c => '0' ≤ c && c ≤ '7')
  else if c == 'b' || c == 'B' then some (2, fun c => c == '0' || c == '1')
  else none

/-- Reads an exponent, when there is one. -/
def lexExponent (cs : List Char) : Option (Int × List Char) :=
  match cs with
  | c :: cs =>
    if c == 'e' || c == 'E' then
      let (negative, cs) := match cs with
        | '-' :: cs => (true, cs)
        | '+' :: cs => (false, cs)
        | cs => (false, cs)
      let (run, rest) := digitRun Char.isDigit cs
      if run.head?.any Char.isDigit && underscoresFit run then
        let n : Int := digitsValue 10 run
        some (if negative then -n else n, rest)
      else none
    else none
  | [] => none

/-- Whether a text may follow a number directly. -/
def mayFollowNumber (cs : List Char) : Bool :=
  match cs with
  | [] => true
  | c :: _ =>
    !(isIdentifierRest c || c == '.') || c == '.' ||
      ["and", "else", "for", "if", "in", "is", "or", "not"].any fun w => w.toList.isPrefixOf cs

/-- The most digits that a whole number may have in a program. -/
def literalDigits : Nat := 4300

/-- Reads a number at the start of a text that begins with a digit, or with a point and a digit. -/
def lexNumber (cs : List Char) : Option (Literal × List Char) :=
  let based : Option (Nat × List Char × List Char) := match cs with
    | '0' :: c :: cs => (baseOf? c).map fun b => (b.1, digitRun b.2 cs)
    | _ => none
  let read := match based with
    | some (base, run, rest) =>
      let digits := if run.head? == some '_' then run.drop 1 else run
      if digits.isEmpty || digits.head? == some '_' || !underscoresFit digits then none
      else some (Literal.int (digitsValue base digits), rest)
    | none =>
      let (whole, rest) := digitRun Char.isDigit cs
      let (fraction?, rest) := match rest with
        | '.' :: tail =>
          let (run, tail) := digitRun Char.isDigit tail
          if run.head? == some '_' then (some [], '.' :: tail) else (some run, tail)
        | _ => (none, rest)
      let (exponent?, rest) := match lexExponent rest with
        | some (e, tail) => (some e, tail)
        | none => (none, rest)
      let fraction := fraction?.getD []
      let number : Binary64 := .ofDecimal false (digitsValue 10 (whole ++ fraction))
        (exponent?.getD 0 - ((fraction.filter (· != '_')).length : Int))
      if !underscoresFit whole || !underscoresFit fraction then none
      else if rest.head? == some 'j' || rest.head? == some 'J' then
        some (.imaginary number, rest.drop 1)
      else if fraction?.isSome || exponent?.isSome then
        some (.float number, rest)
      else if whole.head? == some '0' && digitsValue 10 whole != 0 then none
      else if literalDigits < (whole.filter (· != '_')).length then none
      else some (.int (digitsValue 10 whole), rest)
  read.filter fun (_, rest) => mayFollowNumber rest

/-! ### Quoted texts -/

/-- Reads a quoted text after the letters before it. -/
def lexQuoted (kind : QuoteKind) (cs : List Char) : Option (Token × List Char) :=
  match cs with
  | [] => none
  | mark :: cs => do
    let triple := cs.take 2 == [mark, mark]
    let (body, rest) ← quotedBody mark triple (if triple then cs.drop 2 else cs)
    if kind.template then
      match ← templateParts kind 2 (body.length + 1) false body with
      | (parts, []) => return (.template parts, rest)
      | _ => none
    else if kind.bytes then
      if body.any (127 < ·.toNat) then none
      else return (.literal (.bytes ((← meaning kind body).map fun c => UInt8.ofNat c.toNat)), rest)
    else return (.literal (.str (String.ofList (← meaning kind body))), rest)

/-! ### Lines -/

/-- The depth of a line, counted with tabs of eight columns and with tabs of one. -/
structure Column where
  wide : Nat := 0
  narrow : Nat := 0
deriving DecidableEq

/-- Measures the blanks before a line. -/
def measure (at_ : Column) : List Char → Column × List Char
  | ' ' :: cs => measure ⟨at_.wide + 1, at_.narrow + 1⟩ cs
  | '\t' :: cs => measure ⟨(at_.wide / 8 + 1) * 8, at_.narrow + 1⟩ cs
  | '\x0c' :: cs => measure {} cs
  | cs => (at_, cs)

/-- Closes blocks down to the depth of a line. -/
def dedents (col : Column) : List Column → Except Flaw (List Token × List Column)
  | [] => .ok ([], [])
  | top :: below =>
    if col.wide = top.wide then
      if col.narrow = top.narrow then .ok ([], top :: below) else .error .mixedIndentation
    else if top.wide < col.wide then .error .misindented
    else (dedents col below).map fun (ts, stack) => (.dedent :: ts, stack)

/-- The most depths of lines, the outermost one included, that may be open at once. -/
def blockLimit : Nat := 100

/-- The tokens that the depth of a line stands for, and the open blocks after them. -/
def indentation (col : Column) (open_ : List Column) : Except Flaw (List Token × List Column) :=
  match open_ with
  | [] => .ok ([], [])
  | top :: _ =>
    if top.wide < col.wide then
      if blockLimit ≤ open_.length then .error .misindented
      else if top.narrow < col.narrow then .ok ([.indent], col :: open_)
      else .error .mixedIndentation
    else if col.wide < top.wide && top.narrow ≤ col.narrow then .error .mixedIndentation
    else dedents col open_

/-- Where the reading of tokens stands. -/
structure LexState where
  lineStart : Bool := true
  blocks : List Column := [{}]
  brackets : Nat := 0

/-- Reads one token, not a blank. -/
def lexToken (cs : List Char) : Option (Token × List Char) :=
  match cs with
  | [] => none
  | c :: _ =>
    if c == '\'' || c == '"' then lexQuoted {} cs
    else if c.isDigit || (c == '.' && (cs.drop 1).head?.any Char.isDigit) then
      (lexNumber cs).map fun (l, rest) => (.literal l, rest)
    else if isIdentifierStart c then
      let (name, rest) := cs.span isIdentifierRest
      match rest.head?, QuoteKind.ofLetters? name with
      | some '\'', some kind => lexQuoted kind rest
      | some '"', some kind => lexQuoted kind rest
      | _, _ =>
        let name := String.ofList name
        some (if reservedWords.contains name then .word name else .name (composedForm name), rest)
    else
      (signs.find? (·.isPrefixOf cs)).map fun s => (.sign (String.ofList s), cs.drop s.length)

/-- The brackets open after a token. -/
def bracketsAfter (brackets : Nat) : Token → Nat
  | .sign s =>
    if s == "(" || s == "[" || s == "\x7b" then brackets + 1
    else if s == ")" || s == "]" || s == "\x7d" then brackets - 1
    else brackets
  | _ => brackets

/-- The tokens of a text; `fuel` bounds the number of its characters. -/
def lexLines : Nat → LexState → List Char → List Token
  | 0, _, _ => [.stop]
  | fuel + 1, state, cs =>
    if state.lineStart then
      let (col, rest) := measure {} cs
      match rest with
      | [] => state.blocks.drop 1 |>.map (fun _ => Token.dedent) |> (· ++ [.stop])
      | '\n' :: rest => lexLines fuel state rest
      | '#' :: rest => lexLines fuel state (rest.dropWhile (· != '\n'))
      | _ =>
        match indentation col state.blocks with
        | .error flaw => [.flawed flaw]
        | .ok (ts, blocks) =>
          ts ++ lexLines fuel { state with lineStart := false, blocks := blocks } rest
    else match cs with
      | [] =>
        if state.brackets = 0 then .newline :: lexLines fuel { state with lineStart := true } []
        else [.flawed .malformed]
      | '\n' :: rest =>
        if state.brackets = 0 then .newline :: lexLines fuel { state with lineStart := true } rest
        else lexLines fuel state rest
      | '#' :: rest => lexLines fuel state (rest.dropWhile (· != '\n'))
      | '\\' :: '\n' :: rest => if rest.isEmpty then [.flawed .malformed] else lexLines fuel state rest
      | c :: rest =>
        if c == ' ' || c == '\t' || c == '\x0c' then lexLines fuel state rest
        else match lexToken cs with
          | none => [.flawed .malformed]
          | some (t, rest) =>
            let brackets := bracketsAfter state.brackets t
            if bracketLimit < brackets then [.flawed .malformed]
            else t :: lexLines fuel { state with brackets := brackets } rest

/-- A text with single line feeds at the ends of its lines. -/
def unifyLineEnds : List Char → List Char
  | [] => []
  | '\r' :: '\n' :: cs => '\n' :: unifyLineEnds cs
  | '\r' :: cs => '\n' :: unifyLineEnds cs
  | c :: cs => c :: unifyLineEnds cs

/-- The tokens of a program text. -/
def tokens (source : String) : List Token :=
  let cs := unifyLineEnds source.toList
  lexLines (2 * cs.length + 4) {} cs

end HtmlTemplate.Script
