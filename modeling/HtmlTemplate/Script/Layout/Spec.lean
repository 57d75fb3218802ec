import HtmlTemplate.Number.Rounded
import HtmlTemplate.Number.ComplexNumber
import HtmlTemplate.Text.Letter
import HtmlTemplate.Text.Surrogate

/-!
# Layouts of values

A layout tells how a number or a text is written: its sign, its digits and the room around it.
`Layout.parse` reads one from its text, and `layoutText`, `layoutInt` and `layoutFloat` write values
by it. Each fails with a message where the layout does not go with the value.
-/

namespace HtmlTemplate.Script

open HtmlTemplate.Number HtmlTemplate.Text

/-- What is set between groups of digits. -/
inductive Grouping
  | comma
  | underscore
deriving DecidableEq, Repr

/-- How a value is written. -/
structure Layout where
  fill : Char := ' '
  /-- Where the value stands in its room: `<`, `>`, `^`, or `=` for room after the sign. -/
  align : Char
  /-- Which sign positive numbers have. -/
  sign? : Option Char := none
  /-- Whether a zero has no sign. -/
  plainZero : Bool := false
  alternate : Bool := false
  width? : Option Nat := none
  grouping? : Option Grouping := none
  precision? : Option Nat := none
  /-- The letter of the form. -/
  form? : Option Char := none

namespace Layout

/-- The signs of places in a room. -/
def isAlignment (c : Char) : Bool := c == '<' || c == '>' || c == '=' || c == '^'

/-- The greatest number that a layout may hold. -/
def numberLimit : Nat := Nat.pow 2 63

/-- Reads a number at the start of a text. -/
def readNumber (cs : List Char) : Except String (Option Nat × List Char) :=
  let digits := cs.takeWhile isDecimal
  let n := digits.foldl (fun n c => 10 * n + (decimalDigit? c).getD 0) 0
  if digits.isEmpty then .ok (none, cs)
  else if numberLimit ≤ n then .error "Too many decimal digits in format string"
  else .ok (some n, cs.drop digits.length)

/-- Takes a character off the front of a text, when it is there. -/
def skip (c : Char) (cs : List Char) : Bool × List Char :=
  match cs with
  | d :: rest => if d == c then (true, rest) else (false, cs)
  | [] => (false, cs)

/-- The grouping of digits at the start of a text. -/
def readGrouping (cs : List Char) : Except String (Option Grouping × List Char) :=
  let both := "Cannot specify both ',' and '_'."
  match cs with
  | ',' :: '_' :: _ => .error both
  | ',' :: rest => .ok (some .comma, rest)
  | '_' :: ',' :: _ => .error both
  | '_' :: rest => .ok (some .underscore, rest)
  | _ => .ok (none, cs)

/-- A character in messages. -/
def inMessage (c : Char) : String :=
  if 32 < c.toNat ∧ c.toNat < 128 then "'" ++ String.singleton c ++ "'"
  else "'\\x" ++ String.ofList (Nat.toDigits 16 c.toNat) ++ "'"

/-- Checks that digits can be grouped in a form. -/
def checkGrouping (grouping? : Option Grouping) (form? : Option Char) : Except String Unit :=
  match grouping?, form? with
  | some g, some form =>
    if "defgEG%F".toList.contains form then .ok ()
    else if g == .underscore && "boxX".toList.contains form then .ok ()
    else
      let mark := if g == .comma then "','" else "'_'"
      .error ("Cannot specify " ++ mark ++ " with " ++ inMessage form ++ ".")
  | _, _ => .ok ()

/-- Reads a layout for a value of a type; `align` is where values of the type stand unless it is
told. Texts have a form of their own, which takes no grouping. -/
def parse (typeName : String) (align : Char) (text : String) : Except String Layout := do
  let cs := text.toList
  let (fill?, align?, cs) := match cs with
    | f :: a :: rest =>
      if isAlignment a then (some f, some a, rest)
      else if isAlignment f then (none, some f, a :: rest) else (none, none, cs)
    | [a] => if isAlignment a then (none, some a, []) else (none, none, cs)
    | [] => (none, none, cs)
  let (sign?, cs) := match cs with
    | c :: rest => if c == ' ' || c == '+' || c == '-' then (some c, rest) else (none, cs)
    | [] => (none, cs)
  let (plainZero, cs) := skip 'z' cs
  let (alternate, cs) := skip '#' cs
  let (zeros, cs) := if fill?.isSome then (false, cs) else skip '0' cs
  let (width?, cs) ← readNumber cs
  let (grouping?, cs) ← readGrouping cs
  let (pointed, cs) := skip '.' cs
  let (precision?, cs) ← if pointed then readNumber cs else .ok (none, cs)
  if pointed && precision?.isNone then .error "Format specifier missing precision"
  else if 1 < cs.length then
    .error ("Invalid format specifier '" ++ text ++ "' for object of type '" ++ typeName ++ "'")
  else do
    checkGrouping grouping? (cs.head? <|> if typeName == "str" then some 's' else none)
    return {
      fill := if zeros then '0' else fill?.getD ' '
      align := align?.getD (if zeros && align == '>' then '=' else align)
      sign? := sign?
      plainZero := plainZero
      alternate := alternate
      width? := width?
      grouping? := grouping?
      precision? := precision?
      form? := cs.head? }

/-- The message that a form does not go with values of a type. -/
def unknownForm (form : Char) (typeName : String) : String :=
  "Unknown format code " ++ inMessage form ++ " for object of type '" ++ typeName ++ "'"

/-! ### Room -/

/-- The room before and after a value of a given length. -/
def room (l : Layout) (length : Nat) : List Char × List Char :=
  let total := l.width?.getD 0 - length
  let before := if l.align == '>' then total else if l.align == '^' then total / 2 else 0
  (List.replicate before l.fill, List.replicate (total - before) l.fill)

/-- A text with room around it. -/
def inRoom (l : Layout) (cs : List Char) : List Char :=
  let (before, after) := l.room cs.length
  before ++ cs ++ after

end Layout

/-! ### Texts -/

/-- A text by a layout. -/
def layoutText (l : Layout) (s : String) : Except String String :=
  match l.form? with
  | some form =>
    if form == 's' then write else .error (Layout.unknownForm form "str")
  | none => write
where
  /-- The text by a layout that is for texts. -/
  write : Except String String :=
    let refuse (what : String) : Except String String :=
      .error (what ++ " not allowed in string format specifier")
    match l.sign? with
    | some ' ' => refuse "Space"
    | some _ => refuse "Sign"
    | none =>
      if l.plainZero then refuse "Negative zero coercion (z)"
      else if l.alternate then refuse "Alternate form (#)"
      else if l.align == '=' then refuse "'=' alignment"
      else
        let cs := s.toList
        .ok (String.ofList (l.inRoom (match l.precision? with
          | some p => cs.take p
          | none => cs)))

/-! ### Numbers -/

/-- Digits in groups of a size with a mark between them, filled up with zeros in front to a width.
They are given backwards; `fuel` bounds the number of groups. -/
def groupedBackwards (size : Nat) (mark : Char) : Nat → Nat → List Char → List Char
  | 0, _, _ => []
  | fuel + 1, width, digits =>
    let length := min size (max (max digits.length width) 1)
    let group := digits.take length
    let group := group ++ List.replicate (length - group.length) '0'
    let rest := digits.drop length
    if rest.isEmpty && width ≤ length then group
    else group ++ mark :: groupedBackwards size mark fuel (width - length - 1) rest

/-- Digits in groups, filled up with zeros in front to a width. -/
def groupedDigits (grouping? : Option Grouping) (size width : Nat) (digits : List Char) :
    List Char :=
  let mark? := grouping?.map fun g => if g == .comma then ',' else '_'
  match mark? with
  | none => List.replicate (width - digits.length) '0' ++ digits
  | some mark => (groupedBackwards size mark (digits.length + width + 1) width digits.reverse).reverse

/-- The parts of a number that is written: its sign, what stands before the digits, the digits that
are grouped, and the rest. -/
structure NumberParts where
  negative : Bool
  before : List Char := []
  digits : List Char
  rest : List Char := []

/-- A number by a layout, with groups of digits of the given size. -/
def NumberParts.write (p : NumberParts) (l : Layout) (size : Nat) : List Char :=
  let sign := if p.negative then ['-'] else match l.sign? with
    | some '+' => ['+']
    | some ' ' => [' ']
    | _ => []
  let around := sign.length + p.before.length + p.rest.length
  let width := if l.fill == '0' && l.align == '=' then l.width?.getD 0 - around else 0
  let digits := if p.digits.isEmpty then [] else groupedDigits l.grouping? size width p.digits
  let body := p.before ++ (if l.align == '=' then
    List.replicate (l.width?.getD 0 - (around + digits.length)) l.fill else []) ++ digits ++ p.rest
  l.inRoom (sign ++ body)

/-- A whole number by a layout, in the form of whole numbers that the letter stands for. -/
def layoutWhole (l : Layout) (form : Char) (n : Int) : Except String String :=
  if l.precision?.isSome then .error "Precision not allowed in integer format specifier"
  else if l.plainZero then
    .error "Negative zero coercion (z) not allowed in integer format specifier"
  else if form == 'c' then
    if l.sign?.isSome then .error "Sign not allowed with integer format specifier 'c'"
    else if l.alternate then
      .error "Alternate form (#) not allowed with integer format specifier 'c'"
    else
      let rest := ((ofCodePoint? n.toNat).map fun c => [c]).getD []
      .ok (String.ofList (NumberParts.write { negative := false, digits := [], rest := rest } l 3))
  else
    let (base, letter) := match form with
      | 'b' => (2, some 'b')
      | 'o' => (8, some 'o')
      | 'x' => (16, some 'x')
      | 'X' => (16, some 'X')
      | _ => (10, none)
    let digits := Nat.toDigits base n.natAbs
    let before := match letter with
      | some c => if l.alternate then ['0', c] else []
      | none => []
    .ok (String.ofList (NumberParts.write {
      negative := n < 0, before := before,
      digits := if form == 'X' then digits.map Char.toUpper else digits }
      l (if letter.isSome then 4 else 3)))

/-- The size of a floating-point number in the form that a letter stands for. -/
def floatForm (form? : Option Char) (alternate : Bool) (precision? : Option Nat) (x : Binary64) :
    List Char :=
  if x.isNaN then "nan".toList
  else if x.isInfinite then "inf".toList
  else
    let (n, d) := x.ratio
    let precision := precision?.getD 6
    match form?.map Char.toLower with
    | some 'e' => scientificText alternate precision n d
    | some 'f' => fixedText alternate precision n d
    | some 'g' => generalText ⟨alternate, false⟩ precision n d
    | some 'n' => generalText ⟨alternate, false⟩ precision n d
    | _ =>
      match precision? with
      | some p => generalText ⟨alternate, true⟩ p n d
      | none => (floatText x.abs).toList

/-- Whether all digits of a written number are zeros. -/
def isWrittenZero (cs : List Char) : Bool :=
  (cs.takeWhile (· != 'e')).all fun c => c == '0' || c == '.'

/-- A floating-point number by a layout. -/
def layoutFloat (l : Layout) (x : Binary64) : Except String String :=
  match l.form? with
  | some form =>
    if "eEfFgGn%".toList.contains form then .ok write else .error (Layout.unknownForm form "float")
  | none => .ok write
where
  /-- The number by a layout that is for such numbers. -/
  write : String :=
    let percent := l.form? == some '%'
    let x := if percent then x.mul (.ofInt 100) else x
    let written := floatForm (if percent then some 'f' else l.form?) l.alternate l.precision? x
    let negative := x.isNegative && !x.isNaN && !(l.plainZero && isWrittenZero written)
    let written := if l.form?.any Char.isUpper then written.map Char.toUpper else written
    let digits := written.takeWhile Char.isDigit
    let rest := written.drop digits.length ++ (if percent then ['%'] else [])
    String.ofList (NumberParts.write { negative := negative, digits := digits, rest := rest } l 3)

/-- A part of a complex number by a layout, without room around it. -/
def layoutPart (l : Layout) (x : Binary64) : List Char :=
  let written := match l.form?, l.precision? with
    | none, none => (ComplexNumber.partText x.abs).toList
    | none, precision? => floatForm (some 'g') l.alternate precision? x
    | form?, precision? => floatForm form? l.alternate precision? x
  let written := if l.form?.any Char.isUpper then written.map Char.toUpper else written
  let digits := written.takeWhile Char.isDigit
  NumberParts.write {
    negative := x.isNegative && !x.isNaN && !(l.plainZero && isWrittenZero written)
    digits := digits
    rest := written.drop digits.length } { l with width? := none, align := '<' } 3

/-- A complex number by a layout. Without a letter it has parentheses, or its imaginary part stands
alone. -/
def layoutComplex (l : Layout) (z : ComplexNumber) : Except String String :=
  match l.form? with
  | some form =>
    if "eEfFgGn".toList.contains form then write else .error (Layout.unknownForm form "complex")
  | none => write
where
  /-- The number by a layout that is for such numbers. -/
  write : Except String String :=
    if l.fill == '0' then .error "Zero padding is not allowed in complex format specifier"
    else if l.align == '=' then
      .error "'=' alignment flag is not allowed in complex format specifier"
    else
      let both := layoutPart l z.re ++ layoutPart { l with sign? := some '+' } z.im ++ ['j']
      let written := match l.form? with
        | some _ => both
        | none => if z.re == .zero false then layoutPart l z.im ++ ['j'] else ['('] ++ both ++ [')']
      .ok (String.ofList (l.inRoom written))

/-- Whether a letter stands for a form of floating-point numbers that whole numbers have too. -/
def isFractionalForm (form : Char) : Bool := "eEfFgG%".toList.contains form

end HtmlTemplate.Script
