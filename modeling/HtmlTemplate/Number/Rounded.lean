import HtmlTemplate.Number.Binary64
import HtmlTemplate.Text.Blank

/-!
# Rounded texts

Positive fractions written with a chosen number of digits: `fixedText` with so many digits after the
point, `scientificText` with one digit before the point and an exponent, and `generalText` in
whichever of the two forms is the shorter for the size of the number. The digits are those of the
fraction rounded once, halves to the even digit.
-/

namespace HtmlTemplate.Number

open HtmlTemplate.Text

/-- Digits of a number, filled up with zeros in front. -/
def paddedDigits (width n : Nat) : List Char :=
  let digits := Nat.toDigits 10 n
  List.replicate (width - digits.length) '0' ++ digits

/-- A point and the digits after it; the point stands alone only where it is kept. -/
def fraction (keepPoint : Bool) (digits : List Char) : List Char :=
  if digits.isEmpty && !keepPoint then [] else '.' :: digits

/-- The fraction `n / d` with so many digits after the point. -/
def fixedText (keepPoint : Bool) (places n d : Nat) : List Char :=
  let q := Binary64.roundDiv (n * Nat.pow 10 places) d
  let digits := paddedDigits (places + 1) q
  digits.take (digits.length - places) ++ fraction keepPoint (digits.drop (digits.length - places))

/-- The fraction `n / d` rounded to `count + 1` digits: the digits, and the place of the first one,
counted from that before the point. -/
def leadingDigits (count n d : Nat) : Nat × Int :=
  if n = 0 then (0, 0)
  else
    let rounded (place : Int) : Nat :=
      let shift := (count : Int) - place
      if 0 ≤ shift then Binary64.roundDiv (n * Nat.pow 10 shift.toNat) d
      else Binary64.roundDiv n (d * Nat.pow 10 (-shift).toNat)
    let atLeast (place : Int) : Bool :=
      if 0 ≤ place then d * Nat.pow 10 place.toNat ≤ n else d ≤ n * Nat.pow 10 (-place).toNat
    let guess : Int := ((Nat.toDigits 10 n).length : Int) - (Nat.toDigits 10 d).length
    let place := if atLeast guess then guess else guess - 1
    let q := rounded place
    if q = Nat.pow 10 (count + 1) then (Nat.pow 10 count, place + 1) else (q, place)

/-- An exponent with at least two digits. -/
def exponentPart (place : Int) : List Char :=
  ['e', if place < 0 then '-' else '+'] ++ paddedDigits 2 place.natAbs

/-- The fraction `n / d` with one digit before the point and so many after it. -/
def scientificText (keepPoint : Bool) (places n d : Nat) : List Char :=
  let (q, place) := leadingDigits places n d
  let digits := paddedDigits (places + 1) q
  digits.take 1 ++ fraction keepPoint (digits.drop 1) ++ exponentPart place

/-- How a number of unspecified form is written. -/
structure GeneralStyle where
  /-- Whether zeros at the end and the point stay. -/
  keepZeros : Bool
  /-- Whether there is always a digit after the point. -/
  pointZero : Bool

/-- The fraction `n / d` with `count` digits: with an exponent where the first digit stands more than
four places after the point or the last one before it would not be known. -/
def generalText (style : GeneralStyle) (count n d : Nat) : List Char :=
  let count := max count 1
  let (q, place) := leadingDigits (count - 1) n d
  let digits := paddedDigits count q
  let digits := if style.keepZeros then digits else
    let kept := dropEndWhile (· == '0') digits
    if kept.isEmpty then ['0'] else kept
  if place < -4 ∨ (count : Int) - (if style.pointZero then 1 else 0) ≤ place then
    digits.take 1 ++ fraction style.keepZeros (digits.drop 1) ++ exponentPart place
  else if place < 0 then
    ['0', '.'] ++ List.replicate ((-place).toNat - 1) '0' ++ digits
  else
    let whole := place.toNat + 1
    let padded := digits ++ List.replicate (whole - digits.length) '0'
    let rest := padded.drop whole
    padded.take whole ++
      fraction style.keepZeros (if rest.isEmpty && style.pointZero then ['0'] else rest)

end HtmlTemplate.Number
