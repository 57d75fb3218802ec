import HtmlTemplate.Script.Program
import HtmlTemplate.Text.CharacterName
import HtmlTemplate.Text.Surrogate

/-!
# Quoted texts

How a program text writes texts: `quotedBody` finds the quotation mark that closes one, `unescape`
gives the backslashes in it their meaning, and `templateParts` takes a text with embedded
expressions apart.
-/

namespace HtmlTemplate.Script

open HtmlTemplate.Text

/-- How a quoted text is to be read. -/
structure QuoteKind where
  raw : Bool := false
  bytes : Bool := false
  template : Bool := false

/-- The kind that the letters before a quotation mark stand for. -/
def QuoteKind.ofLetters? (letters : List Char) : Option QuoteKind :=
  match String.ofList (letters.map Char.toLower) with
  | "" => some {}
  | "u" => some {}
  | "r" => some ⟨true, false, false⟩
  | "b" => some ⟨false, true, false⟩
  | "f" => some ⟨false, false, true⟩
  | "rb" => some ⟨true, true, false⟩
  | "br" => some ⟨true, true, false⟩
  | "rf" => some ⟨true, false, true⟩
  | "fr" => some ⟨true, false, true⟩
  | _ => none

/-- Splits a text at the quotation mark that closes it. -/
def quotedBody (mark : Char) (triple : Bool) : List Char → Option (List Char × List Char)
  | [] => none
  | '\\' :: c :: cs =>
    (quotedBody mark triple cs).map fun (body, rest) => ('\\' :: c :: body, rest)
  | c :: cs =>
    if c == mark && !triple then some ([], cs)
    else if c == mark && cs.take 2 == [mark, mark] then some ([], cs.drop 2)
    else if c == '\n' && !triple then none
    else (quotedBody mark triple cs).map fun (body, rest) => (c :: body, rest)

/-! ### Escapes -/

/-- The value of a digit in base sixteen or less. -/
def digitValue (c : Char) : Nat :=
  if c.isDigit then c.toNat - '0'.toNat
  else if 'a' ≤ c ∧ c ≤ 'f' then c.toNat - 'a'.toNat + 10
  else c.toNat - 'A'.toNat + 10

/-- The number that a run of digits denotes. -/
def digitsValue (base : Nat) (cs : List Char) : Nat :=
  cs.foldl (fun n c => if c == '_' then n else base * n + digitValue c) 0

/-- Digits of base sixteen. -/
def isHexDigit (c : Char) : Bool :=
  c.isDigit || ('a' ≤ c && c ≤ 'f') || ('A' ≤ c && c ≤ 'F')

/-- Reads exactly `count` digits of base sixteen. -/
def hexRun (count : Nat) (cs : List Char) : Option (Nat × List Char) :=
  let run := cs.take count
  if run.length = count ∧ run.all isHexDigit then some (digitsValue 16 run, cs.drop count)
  else none

/-- Whether a character is a digit of base eight. -/
def isOctalDigit (c : Char) : Bool := '0' ≤ c && c ≤ '7'

/-- The character that a name in braces stands for, and the text behind it. -/
def namedCharacter (cs : List Char) : Option (List Char × List Char) :=
  match cs with
  | '\x7b' :: cs => do
    let name := cs.takeWhile (· != '\x7d')
    let n ← characterNamed? (String.ofList name)
    let c ← ofCodePoint? n
    if (cs.drop name.length).isEmpty then none else return ([c], cs.drop (name.length + 1))
  | _ => none

/-- What stands at the start of a text after a backslash: the characters that are meant, and the
text behind them. -/
def unescapeOne (bytes : Bool) (cs : List Char) : Option (List Char × List Char) :=
  match cs with
  | [] => some (['\\'], [])
  | c :: rest =>
    let coded (count : Nat) : Option (List Char × List Char) := do
      let (n, rest) ← hexRun count rest
      let c ← ofCodePoint? n
      return ([c], rest)
    match c with
    | '\n' => some ([], rest)
    | '\\' => some (['\\'], rest)
    | '\'' => some (['\''], rest)
    | '"' => some (['"'], rest)
    | 'a' => some (['\x07'], rest)
    | 'b' => some (['\x08'], rest)
    | 'f' => some (['\x0c'], rest)
    | 'n' => some (['\n'], rest)
    | 'r' => some (['\r'], rest)
    | 't' => some (['\t'], rest)
    | 'v' => some (['\x0b'], rest)
    | 'x' => coded 2
    | _ =>
      if isOctalDigit c then
        let run := (cs.take 3).takeWhile isOctalDigit
        (ofCodePoint? (digitsValue 8 run)).map fun c => ([c], cs.drop run.length)
      else if bytes then some (['\\', c], rest)
      else if c == 'u' then coded 4
      else if c == 'U' then coded 8
      else if c == 'N' then namedCharacter rest
      else some (['\\', c], rest)

/-- Resolves the backslashes of a text; `fuel` bounds the number of its characters. -/
def unescape (bytes : Bool) : Nat → List Char → Option (List Char)
  | 0, _ => some []
  | _ + 1, [] => some []
  | fuel + 1, c :: cs =>
    if c == '\\' then do
      let (meant, rest) ← unescapeOne bytes cs
      return meant ++ (← unescape bytes fuel rest)
    else (unescape bytes fuel cs).map (c :: ·)

/-- The text between quotation marks as it is meant. -/
def meaning (kind : QuoteKind) (body : List Char) : Option (List Char) :=
  if kind.raw then some body else unescape kind.bytes (body.length + 1) body

/-! ### Embedded expressions -/

/-- A part of a text with embedded expressions: characters, or an expression as it is written with
the letter of its conversion and its layout. -/
inductive TemplatePart
  | text (s : String)
  | value (source : String) (letter? : Option Char) (layout? : Option (List TemplatePart))
deriving Repr, Inhabited

/-- The most brackets that may be open. -/
def bracketLimit : Nat := 200

/-- The bracket that closes another. -/
def closing (c : Char) : Char :=
  match c with
  | '(' => ')'
  | '[' => ']'
  | _ => '\x7d'

/-- A quotation mark inside an embedded expression, and whether it is a threefold one. -/
abbrev OpenQuote := Char × Bool

/-- Splits an embedded expression off at the sign that ends it: a brace, a colon, an exclamation
mark or an equals sign outside all brackets and quotes. `open_` are the brackets that are open, the
last one first, and `fuel` bounds the number of characters. -/
def embedded : Nat → List Char → Option OpenQuote → List Char → Option (List Char × List Char)
  | 0, _, _, _ => none
  | _ + 1, _, _, [] => none
  | fuel + 1, open_, quote?, c :: cs =>
    let next (open_ : List Char) (quote? : Option OpenQuote) (taken : Nat) :
        Option (List Char × List Char) :=
      (embedded fuel open_ quote? (cs.drop taken)).map fun (body, rest) =>
        (c :: cs.take taken ++ body, rest)
    if c == '\\' then none
    else match quote? with
      | some (mark, triple) =>
        if c != mark then next open_ quote? 0
        else if !triple then next open_ none 0
        else if cs.take 2 == [mark, mark] then next open_ none 2
        else next open_ quote? 0
      | none =>
        if c == '\'' || c == '"' then
          if cs.take 2 == [c, c] then next open_ (some (c, true)) 2
          else next open_ (some (c, false)) 0
        else if c == '(' || c == '[' || c == '\x7b' then
          if open_.length < bracketLimit then next (c :: open_) none 0 else none
        else if c == '#' then none
        else if open_.isEmpty && ['!', ':', '\x7d', '=', '<', '>'].contains c then
          if cs.head? == some '=' && c != ':' && c != '\x7d' then next open_ none 1
          else if c == '<' || c == '>' then next open_ none 0
          else some ([], c :: cs)
        else if c == ')' || c == ']' || c == '\x7d' then
          match open_ with
          | [] => none
          | o :: open_ => if closing o == c then next open_ none 0 else none
        else next open_ none 0

/-- Splits the characters before the first embedded expression off. Doubled braces stand for single
ones, except inside a layout, where a closing brace ends the text; `inName` tells that the braces
around the name of a character are open. -/
def plainPart (inLayout raw inName : Bool) : List Char → Option (List Char × List Char)
  | [] => some ([], [])
  | c :: cs =>
    let and_ (before : List Char) (rest : Option (List Char × List Char)) :
        Option (List Char × List Char) :=
      rest.map fun (part, rest) => (before ++ part, rest)
    if inName then and_ [c] (plainPart inLayout raw (c != '\x7d') cs)
    else if c == '\\' && !raw then
      match cs with
      | '\\' :: cs => and_ [c, '\\'] (plainPart inLayout raw false cs)
      | 'N' :: '\x7b' :: cs => and_ [c, 'N', '\x7b'] (plainPart inLayout raw true cs)
      | cs => and_ [c] (plainPart inLayout raw false cs)
    else if c == '\x7b' || c == '\x7d' then
      match cs with
      | d :: cs' =>
        if d == c && !inLayout then and_ [c] (plainPart inLayout raw false cs')
        else if c == '\x7b' || inLayout then some ([], c :: cs) else none
      | [] => if c == '\x7b' || inLayout then some ([], [c]) else none
    else and_ [c] (plainPart inLayout raw false cs)

/-- Characters that the language of layouts takes for blank. -/
def isSpacing (c : Char) : Bool := c == ' ' || (9 ≤ c.toNat && c.toNat ≤ 13)

/-- The parts of a text with embedded expressions and what is left of it, which is something only
inside a layout. `levels` bounds how deep layouts nest and `fuel` the number of parts. -/
def templateParts (kind : QuoteKind) :
    Nat → Nat → Bool → List Char → Option (List TemplatePart × List Char)
  | _, 0, _, _ => none
  | levels, fuel + 1, inLayout, cs => do
    let (plain, rest) ← plainPart inLayout kind.raw false cs
    let plain := TemplatePart.text (String.ofList (← meaning kind plain))
    match rest with
    | '\x7b' :: rest => do
      let (source, rest) ← embedded (rest.length + 1) [] none rest
      if levels = 0 ∨ source.all isSpacing then none
      let (shown, rest) := match rest with
        | '=' :: tail =>
          let blanks := tail.takeWhile isSpacing
          (some (source ++ '=' :: blanks), tail.drop blanks.length)
        | _ => (none, rest)
      let (letter?, rest) ← match rest with
        | '!' :: c :: tail =>
          if c == 'r' || c == 's' || c == 'a' then some (some c, tail) else none
        | '!' :: [] => none
        | _ => some (none, rest)
      let (layout?, rest) ← match rest with
        | ':' :: tail => (templateParts kind (levels - 1) fuel true tail).map fun (l, r) => (some l, r)
        | _ => some (none, rest)
      match rest with
      | '\x7d' :: rest =>
        let letter? := if shown.isSome && letter?.isNone && layout?.isNone then some 'r' else letter?
        let (more, rest) ← templateParts kind levels fuel inLayout rest
        let before := match shown with
          | none => [plain]
          | some s => [plain, .text (String.ofList s)]
        return (before ++ .value (String.ofList source) letter? layout? :: more, rest)
      | _ => none
    | rest => return ([plain], rest)
end HtmlTemplate.Script
