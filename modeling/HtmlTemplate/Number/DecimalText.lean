import HtmlTemplate.Number.Shortest
import HtmlTemplate.Text.Letter
import HtmlTemplate.Text.Blank

/-!
# Decimal texts

`floatText` writes a floating-point number by its shortest decimal: with a point when the leading
digit stands between the fourth place after the point and the sixteenth before it, and with an
exponent of two digits or more otherwise. `readIntIn?` and `readFloat?` read the texts of numbers.
-/

namespace HtmlTemplate.Number

open HtmlTemplate.Text

/-- Which decimals are written without an exponent, and how the parts of a number are spelled. -/
structure DecimalStyle where
  /-- The least place of a leading digit that is written without an exponent. -/
  least : Int
  /-- The first place of a leading digit that needs an exponent. -/
  most : Int
  /-- The least number of digits in an exponent. -/
  exponentWidth : Nat
  infinity : String
  notANumber : String

/-- Places from `-4` to `15` are positional and exponents have two digits. -/
def floatStyle : DecimalStyle := ⟨-4, 16, 2, "inf", "nan"⟩

/-- The digits of a decimal without zeros at the end, and the place of the first. -/
def significantDigits (d : Decimal) : List Char × Int :=
  let digits := Nat.toDigits 10 d.digits
  let kept := dropEndWhile (· == '0') digits
  (if kept.isEmpty then ['0'] else kept, d.exponent + digits.length - 1)

/-- A decimal written with a point. -/
def positionalText (digits : List Char) (place : Int) : List Char :=
  if place < 0 then
    ['0', '.'] ++ List.replicate ((-place).toNat - 1) '0' ++ digits
  else
    let whole := place.toNat + 1
    let padded := digits ++ List.replicate (whole - digits.length) '0'
    let rest := padded.drop whole
    padded.take whole ++ '.' :: (if rest.isEmpty then ['0'] else rest)

/-- A decimal written with an exponent. -/
def exponentText (style : DecimalStyle) (digits : List Char) (place : Int) : List Char :=
  let lead := digits.take 1
  let rest := digits.drop 1
  let size := Nat.toDigits 10 place.natAbs
  lead ++ (if rest.isEmpty then [] else '.' :: rest) ++
    ['e', if place < 0 then '-' else '+'] ++
    List.replicate (style.exponentWidth - size.length) '0' ++ size

/-- A number in the given style. -/
def Binary64.write (style : DecimalStyle) (x : Binary64) : String :=
  if x.isNaN then style.notANumber
  else
    let sign := if x.isNegative then "-" else ""
    if x.isInfinite then sign ++ style.infinity
    else if x.isZero then sign ++ "0.0"
    else
      let (digits, place) := significantDigits (shortest x)
      sign ++ String.ofList
        (if style.least ≤ place ∧ place < style.most then positionalText digits place
         else exponentText style digits place)

/-- A floating-point number as text. -/
def floatText (x : Binary64) : String := x.write floatStyle

/-! ### Reading -/

/-- Digits with single underscores between them, as a number and the text after them. -/
def readDigits (value : Nat) (count : Nat) : List Char → Nat × Nat × List Char
  | [] => (value, count, [])
  | c :: cs =>
    match decimalDigit? c with
    | some d => readDigits (10 * value + d) (count + 1) cs
    | none =>
      match c, cs with
      | '_', d :: _ =>
        if count = 0 ∨ (decimalDigit? d).isNone then (value, count, c :: cs)
        else readDigits value count cs
      | _, _ => (value, count, c :: cs)

/-- A sign and the text after it. -/
def readSign : List Char → Bool × List Char
  | '-' :: cs => (true, cs)
  | '+' :: cs => (false, cs)
  | cs => (false, cs)

/-- The blanks that may stand around a number: all but the separators among the controls. -/
def isNumberBlank (c : Char) : Bool := isBlank c && !(0x1c ≤ c.toNat && c.toNat ≤ 0x1f)

/-- Drops the blanks around a number. -/
def trimNumber (cs : List Char) : List Char := trimWhile isNumberBlank cs

/-- The value of a digit or a letter that counts on from the digits. -/
def alphanumericDigit? (c : Char) : Option Nat :=
  match decimalDigit? c with
  | some d => some d
  | none =>
    let l := c.toLower
    if 'a' ≤ l ∧ l ≤ 'z' then some (l.toNat - 'a'.toNat + 10) else none

/-- Digits of a base with single underscores between them, as a number; an underscore may also stand
first when `after` tells that something stands before the digits. -/
def readBased? (base : Nat) (after : Bool) (value : Nat) : List Char → Option Nat
  | [] => if after then some value else none
  | c :: cs =>
    if c == '_' then
      match after, cs with
      | true, d :: _ => if d == '_' then none else readBased? base false value cs
      | _, _ => none
    else
      match alphanumericDigit? c with
      | some d => if d < base then readBased? base true (base * value + d) cs else none
      | none => none

/-- The base that a letter after a leading zero stands for. -/
def letterBase? (c : Char) : Option Nat :=
  match c.toLower with
  | 'x' => some 16
  | 'o' => some 8
  | 'b' => some 2
  | _ => none

/-- Reads a whole number in a base, with blanks around it. The digits may follow the mark of their
base; base zero stands for the base that is marked, or else ten without leading zeros. -/
def readIntIn? (base : Nat) (s : String) : Option Int :=
  let (negative, cs) := readSign (trimNumber s.toList)
  let marked? : Option (Nat × List Char) :=
    match cs with
    | '0' :: l :: rest =>
      match letterBase? l with
      | some b => if base = b ∨ base = 0 then some (b, rest) else none
      | none => none
    | _ => none
  let value? := match marked? with
    | some (b, rest) =>
      if rest.isEmpty then none
      else match rest with
        | '_' :: digits => readBased? b false 0 digits
        | digits => readBased? b false 0 digits
    | none =>
      if base = 0 then
        (readBased? 10 false 0 cs).filter fun n => n = 0 || cs.head? != some '0'
      else readBased? base false 0 cs
  value?.map fun n => if negative then -(n : Int) else n

/-- The number of digits of a base at the start of a text, single underscores aside. -/
def countDigits (base : Nat) : List Char → Nat
  | [] => 0
  | c :: cs =>
    if c == '_' then if cs.head? == some '_' then 0 else countDigits base cs
    else if (alphanumericDigit? c).any (· < base) then countDigits base cs + 1
    else 0

/-- The number of digits in the text of a whole number whose base is no power of two; base zero
stands for ten where no other base is marked. -/
def digitCount (base : Nat) (s : String) : Nat :=
  if [2, 4, 8, 16, 32].contains base then 0
  else
    let cs := (readSign (trimNumber s.toList)).2
    if base = 0 then
      match cs with
      | '0' :: l :: _ => if (letterBase? l).isSome then 0 else countDigits 10 cs
      | _ => countDigits 10 cs
    else countDigits base cs

/-- Reads an exponent after its letter. -/
def readExponent : List Char → Option (Int × List Char)
  | cs =>
    let (negative, cs) := readSign cs
    let (value, count, rest) := readDigits 0 0 cs
    if count = 0 then none else some (if negative then -(value : Int) else value, rest)

/-- Reads the digits of a decimal with a point or an exponent. -/
def readDecimal? (cs : List Char) : Option (Nat × Int × List Char) :=
  let (whole, wholeCount, rest) := readDigits 0 0 cs
  let (value, places, count, rest) := match rest with
    | '.' :: tail =>
      let (value, fractionCount, tail') := readDigits whole 0 tail
      (value, fractionCount, wholeCount + fractionCount, tail')
    | _ => (whole, 0, wholeCount, rest)
  if count = 0 then none
  else
    let (e, rest) := match rest with
      | c :: tail =>
        if c == 'e' || c == 'E' then (readExponent tail).getD (0, rest) else (0, rest)
      | [] => (0, rest)
    some (value, e - places, rest)

/-- Reads a floating-point number, with blanks around it. -/
def readFloat? (s : String) : Option Binary64 :=
  let (negative, cs) := readSign (trimNumber s.toList)
  let word := (String.ofList cs).toLower
  if word = "inf" ∨ word = "infinity" then some (.infinity negative)
  else if word = "nan" then some (Binary64.ofFields negative 2047 (Nat.pow 2 51))
  else match readDecimal? cs with
    | some (value, e, []) => some (.ofDecimal negative value e)
    | _ => none

end HtmlTemplate.Number
