import HtmlTemplate.Script.Library.Attribute

/-!
# Texts with fields

Texts in which braces mark the places of values, as in `{0}`, `{name}` or `{point.x:>5}`.
`FieldText.next` splits a text into its literal parts and its fields, and `fillFields` puts values
in the places of the fields.
-/

namespace HtmlTemplate.Script

open HtmlTemplate.Text

/-- A field of a text: the characters that name its value, the letter of its conversion and the
characters of its layout. -/
structure Field where
  name : List Char
  letter? : Option Char := none
  layout : List Char := []

namespace FieldText

/-- Splits the characters of a name off: up to a brace, a colon or an exclamation mark outside of
brackets, which comes with it. -/
def splitName (inBrackets : Bool) : List Char → Except String (List Char × Option Char × List Char)
  | [] => .ok ([], none, [])
  | c :: cs => do
    let onwards (inside : Bool) : Except String (List Char × Option Char × List Char) := do
      let (name, mark?, rest) ← splitName inside cs
      return (c :: name, mark?, rest)
    if inBrackets then onwards (c != ']')
    else if c == '\x7b' then .error "unexpected '\x7b' in field name"
    else if c == '\x7d' || c == ':' || c == '!' then return ([], some c, cs)
    else onwards (c == '[')

/-- Splits a layout off at the brace that closes the field; `depth` counts the open braces in it. -/
def splitLayout (depth : Nat) : List Char → Option (List Char × List Char)
  | [] => none
  | c :: cs =>
    let onwards (depth : Nat) : Option (List Char × List Char) :=
      (splitLayout depth cs).map fun (layout, rest) => (c :: layout, rest)
    if c == '\x7b' then onwards (depth + 1)
    else if c == '\x7d' then
      match depth with
      | 0 => some ([], cs)
      | depth + 1 => onwards depth
    else onwards depth

/-- The field that begins behind an opening brace, and the characters after it. -/
def readField (cs : List Char) : Except String (Field × List Char) := do
  let withLayout (field : Field) (cs : List Char) : Except String (Field × List Char) :=
    match splitLayout 0 cs with
    | some (layout, rest) => .ok ({ field with layout := layout }, rest)
    | none => .error "unmatched '\x7b' in format spec"
  let (name, mark?, rest) ← splitName false cs
  match mark?, rest with
  | some '\x7d', _ => return (⟨name, none, []⟩, rest)
  | some ':', _ => withLayout ⟨name, none, []⟩ rest
  | some _, [] => .error "end of string while looking for conversion specifier"
  | some _, letter :: '\x7d' :: rest => return (⟨name, some letter, []⟩, rest)
  | some _, letter :: ':' :: rest => withLayout ⟨name, some letter, []⟩ rest
  | some _, [_] => .error "unmatched '\x7b' in format spec"
  | some _, _ => .error "expected ':' after conversion specifier"
  | none, _ => .error "expected '\x7d' before end of string"

/-- The literal characters at the start of a text, the field after them, and the rest. A brace that
is written twice stands for itself. -/
def next : List Char → Except String (List Char × Option Field × List Char)
  | [] => .ok ([], none, [])
  | c :: cs =>
    if c == '\x7b' || c == '\x7d' then
      match cs with
      | d :: rest =>
        if c == d then .ok ([c], none, rest)
        else if c == '\x7d' then .error "Single '\x7d' encountered in format string"
        else (readField cs).map fun (field, rest) => ([], some field, rest)
      | [] => .error ("Single '" ++ String.singleton c ++ "' encountered in format string")
    else (next cs).map fun (literal, field?, rest) => (c :: literal, field?, rest)

/-- The number that characters write. -/
def number? (cs : List Char) : Except String (Option Nat) :=
  if cs.isEmpty || !cs.all isDecimal then .ok none
  else
    let n := cs.foldl (fun n c => 10 * n + (decimalDigit? c).getD 0) 0
    if Nat.pow 2 63 ≤ n then .error "Too many decimal digits in format string" else .ok (some n)

end FieldText

/-- How fields name values by number: not at all yet, by counting or by their own numbers. -/
inductive FieldCounting
  | open
  | counted (next : Nat)
  | numbered
deriving DecidableEq, Repr

/-- The values for fields. -/
structure FieldSupply where
  /-- The values by number, unless there are none at all. -/
  placed? : Option (List Value)
  /-- The value of a name. -/
  byName : String → Run Value

/-- The number of the value that a field stands for when it names it by number. -/
def FieldCounting.number? (counting : FieldCounting) (first : List Char) :
    Except String (Option Nat × FieldCounting) := do
  match ← FieldText.number? first, first, counting with
  | none, [], .open => return (some 0, .counted 1)
  | none, [], .counted next => return (some next, .counted (next + 1))
  | none, [], .numbered =>
    .error "cannot switch from manual field specification to automatic field numbering"
  | none, _, counting => return (none, counting)
  | some _, _, .counted _ =>
    .error "cannot switch from automatic field numbering to manual field specification"
  | some n, _, _ => return (some n, .numbered)

section

variable (perform : Perform)

/-- Follows the attributes and items that come after the first part of a name; `fuel` bounds their
number. -/
def followName : Nat → Value → List Char → Run Value
  | 0, v, _ => return v
  | _ + 1, v, [] => return v
  | fuel + 1, v, c :: cs => do
    let refuseEmpty (part : List Char) : Run Unit :=
      if part.isEmpty then raise .value "Empty attribute in format string" else return ()
    if c == '.' then
      let (part, rest) := cs.span fun c => c != '.' && c != '['
      refuseEmpty part
      followName fuel (← attributeOf perform v (String.ofList part)) rest
    else if c == '[' then
      let (part, rest) := cs.span (· != ']')
      match rest with
      | [] => raise .value "Missing ']' in format string"
      | _ :: rest =>
        refuseEmpty part
        let index ← match ← orRaise (FieldText.number? part) with
          | some n => newInt n
          | none => newStr (String.ofList part)
        followName fuel (← access perform v index) rest
    else raise .value "Only '.' or '[' may follow ']' in format field specifier"

/-- The value that the name of a field stands for. -/
def fieldValue (supply : FieldSupply) (counting : FieldCounting) (name : List Char) :
    Run (Value × FieldCounting) := do
  let (first, rest) := name.span fun c => c != '.' && c != '['
  let (number?, counting) ← orRaise (counting.number? first)
  let v ← match number?, supply.placed? with
    | none, _ => supply.byName (String.ofList first)
    | some _, none => raise .value "Format string contains positional fields"
    | some n, some placed =>
      match placed[n]? with
      | some v => pure v
      | none => raise .index ("Replacement index " ++ toString n ++
        " out of range for positional args tuple")
  return (← followName perform (rest.length + 1) v rest, counting)

/-- A value as the letter of a conversion says. -/
def converted (letter? : Option Char) (v : Value) : Run Value := do
  match letter? with
  | none => return v
  | some 'r' => newStr (← shown v)
  | some 's' =>
    match v with
    | .str .. => return v
    | _ => newStr (← textOf v)
  | some 'a' => newStr (escapeBeyond (← shown v))
  | some c =>
    raise .value ("Unknown conversion specifier " ++
      if 32 < c.toNat ∧ c.toNat < 127 then String.singleton c
      else "\\x" ++ String.ofList (Nat.toDigits 16 (codePoint c)))

/-- The text of parts, or the last of them itself where nothing stands before it. -/
def joinParts (parts : List Value) : Run Value := do
  let text : Value → String := fun v => match v with
    | .str _ s => s
    | _ => ""
  match parts.reverse with
  | [] => newStr ""
  | last :: before =>
    if before.all fun v => (text v).isEmpty then return last
    else newStr (String.join (parts.map text))

/-- Puts values in the places of the fields of a text. `depth` bounds how deep fields may stand in
the layouts of others, and `fuel` the number of parts. -/
def fillParts (supply : FieldSupply) :
    Nat → Nat → FieldCounting → List Char → Run (List Value × FieldCounting)
  | 0, _, _, _ => raise .value "Max string recursion exceeded"
  | _, 0, counting, _ => return ([], counting)
  | _, _, counting, [] => return ([], counting)
  | depth + 1, fuel + 1, counting, cs => do
    let (literal, field?, rest) ← orRaise (FieldText.next cs)
    let front ← if literal.isEmpty then pure [] else do pure [← newStr (String.ofList literal)]
    match field? with
    | none =>
      let (parts, counting) ← fillParts supply (depth + 1) fuel counting rest
      return (front ++ parts, counting)
    | some field =>
      let (v, counting) ← fieldValue perform supply counting field.name
      let v ← converted field.letter? v
      let (layout, counting) ←
        if field.layout.contains '\x7b' then do
          let (parts, counting) ← fillParts supply depth fuel counting field.layout
          pure (← textOf (← joinParts parts), counting)
        else pure (String.ofList field.layout, counting)
      let written ← formatted v layout
      let (parts, counting) ← fillParts supply (depth + 1) fuel counting rest
      return (front ++ written :: parts, counting)

/-- A text with values in the places of its fields; a text without braces stays as it is. -/
def fillFields (v : Value) (s : String) (supply : FieldSupply) : Run Value := do
  let cs := s.toList
  if cs.all fun c => c != '\x7b' && c != '\x7d' then return v
  else joinParts (← fillParts perform supply 2 (cs.length + 1) .open cs).1

end

end HtmlTemplate.Script
