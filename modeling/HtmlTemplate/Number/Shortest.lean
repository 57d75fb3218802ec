import HtmlTemplate.Number.Binary64

/-!
# Shortest decimals

`shortest` finds the decimal with the fewest digits that rounds to a given number, and among those
the nearest one. The reals that round to `m · 2 ^ q` form an interval, whose ends belong to it when
`m` is even; a decimal with a given number of digits lies in it exactly when one of the two
neighbours of the number on the grid of such decimals does.
-/

namespace HtmlTemplate.Number

/-- A decimal `digits · 10 ^ exponent`. -/
structure Decimal where
  digits : Nat
  exponent : Int
deriving DecidableEq, Repr

/-- Four times the ends of the interval of reals that round to `m · 2 ^ q`, over `2 ^ q`. Below a
power of two the numbers lie twice as close. -/
def roundingEnds (x : Binary64) : Nat × Nat :=
  let m := x.significand
  let narrow := x.fractionField = 0 ∧ 1 < x.exponentField
  (if narrow then 4 * m - 1 else 4 * m - 2, 4 * m + 2)

/-- Multiplies a fraction by a power of two. -/
def scaleBinary (n : Nat) (q : Int) : Nat × Nat :=
  if 0 ≤ q then (n * Nat.pow 2 q.toNat, 1) else (n, Nat.pow 2 (-q).toNat)

/-- Compares the fraction `f` with `d · 10 ^ k`. -/
def compareDecimal (f : Nat × Nat) (d : Nat) (k : Int) : Ordering :=
  if 0 ≤ k then compare f.1 (d * Nat.pow 10 k.toNat * f.2) else compare (f.1 * Nat.pow 10 (-k).toNat) (d * f.2)

/-- Whether `d · 10 ^ k` rounds to a number. -/
def roundsTo (x : Binary64) (d : Nat) (k : Int) : Bool :=
  let (lo, hi) := roundingEnds x
  let even := x.significand % 2 = 0
  let below := compareDecimal (scaleBinary lo (x.exponent - 2)) d k
  let above := compareDecimal (scaleBinary hi (x.exponent - 2)) d k
  (below == .lt || (even && below == .eq)) && (above == .gt || (even && above == .eq))

/-- The exponent of the leading decimal digit of a fraction below one; `fuel` bounds its zeros. -/
def leadingPlace (n d : Nat) : Nat → Int
  | 0 => 0
  | fuel + 1 => if d ≤ n then 0 else leadingPlace (10 * n) d fuel - 1

/-- The exponent of the leading decimal digit of a fraction. -/
def magnitude (f : Nat × Nat) : Int :=
  if f.2 ≤ f.1 then ((Nat.toDigits 10 (f.1 / f.2)).length : Int) - 1
  else leadingPlace f.1 f.2 400

/-- The neighbours of a number with `n` digits: the nearer one that rounds to it, an even one when
both are equally near. -/
def shortestWith (x : Binary64) (n : Nat) : Option Decimal :=
  let f := x.ratio
  let k := magnitude f - (n : Int) + 1
  let (a, b) := if 0 ≤ k then (f.1, f.2 * Nat.pow 10 k.toNat) else (f.1 * Nat.pow 10 (-k).toNat, f.2)
  let d := a / b
  let r := a % b
  match roundsTo x d k, roundsTo x (d + 1) k with
  | true, true =>
    let up := b < 2 * r || (2 * r == b && d % 2 == 1)
    some ⟨if up then d + 1 else d, k⟩
  | true, false => some ⟨d, k⟩
  | false, true => some ⟨d + 1, k⟩
  | false, false => none

/-- The decimal with the fewest digits that rounds to a finite number other than zero. -/
def shortest (x : Binary64) : Decimal :=
  ((List.range 17).findSome? fun i => shortestWith x (i + 1)).getD ⟨x.significand, x.exponent⟩

end HtmlTemplate.Number
