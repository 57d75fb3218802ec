/-!
# Binary floating-point numbers

A `Binary64` is a floating-point number given by its 64 bits. Apart from infinities and numbers
that are not a number, it denotes a whole multiple of a power of two, `m · 2 ^ q`, and comparison is
comparison of these. `Binary64.ofRatio` rounds a fraction to the nearest number, halves to an even
`m`.
-/

namespace HtmlTemplate.Number

/-- A floating-point number in its 64 bits. -/
structure Binary64 where
  bits : UInt64
deriving DecidableEq, Repr, Inhabited

namespace Binary64

/-- Whether the sign bit is set. -/
def isNegative (x : Binary64) : Bool := x.bits.toNat / Nat.pow 2 63 == 1

/-- The eleven bits of the exponent. -/
def exponentField (x : Binary64) : Nat := x.bits.toNat / Nat.pow 2 52 % Nat.pow 2 11

/-- The lower 52 bits. -/
def fractionField (x : Binary64) : Nat := x.bits.toNat % Nat.pow 2 52

def isNaN (x : Binary64) : Bool := x.exponentField == 2047 && x.fractionField != 0

def isInfinite (x : Binary64) : Bool := x.exponentField == 2047 && x.fractionField == 0

def isFinite (x : Binary64) : Bool := x.exponentField != 2047

/-- The whole number `m` of a finite number, without its sign. -/
def significand (x : Binary64) : Nat :=
  if x.exponentField = 0 then x.fractionField else x.fractionField + Nat.pow 2 52

/-- The exponent `q` of a finite number. -/
def exponent (x : Binary64) : Int :=
  if x.exponentField = 0 then -1074 else (x.exponentField : Int) - 1075

def isZero (x : Binary64) : Bool := x.isFinite && x.significand == 0

/-- The size of a finite number as a fraction. -/
def ratio (x : Binary64) : Nat × Nat :=
  if 0 ≤ x.exponent then (x.significand * Nat.pow 2 x.exponent.toNat, 1)
  else (x.significand, Nat.pow 2 (-x.exponent).toNat)

/-- A finite number as a fraction with its sign. -/
def signedRatio (x : Binary64) : Int × Nat :=
  let (n, d) := x.ratio
  (if x.isNegative then -(n : Int) else n, d)

/-- The number with the given sign, exponent field and fraction field. -/
def ofFields (negative : Bool) (exponent fraction : Nat) : Binary64 :=
  ⟨UInt64.ofNat ((if negative then Nat.pow 2 63 else 0) + exponent * Nat.pow 2 52 + fraction)⟩

def infinity (negative : Bool) : Binary64 := ofFields negative 2047 0

def zero (negative : Bool) : Binary64 := ofFields negative 0 0

/-- The quotient rounded to the nearest whole number, halves to the even one. -/
def roundDiv (n d : Nat) : Nat :=
  let q := n / d
  let r := n % d
  if 2 * r < d then q else if d < 2 * r then q + 1 else if q % 2 = 0 then q else q + 1

/-- The fraction `n / d` as a whole multiple of `2 ^ q`, rounded. -/
def roundAt (n d : Nat) (q : Int) : Nat :=
  if 0 ≤ q then roundDiv n (d * Nat.pow 2 q.toNat) else roundDiv (n * Nat.pow 2 (-q).toNat) d

/-- The number nearest to `n / d`. -/
def ofRatio (negative : Bool) (n d : Nat) : Binary64 :=
  if n = 0 then zero negative
  else
    let guess : Int := (Nat.log2 n : Int) - (Nat.log2 d : Int) - 53
    let scaled (q : Int) : Nat :=
      if 0 ≤ q then n / (d * Nat.pow 2 q.toNat) else n * Nat.pow 2 (-q).toNat / d
    let q := if scaled guess < Nat.pow 2 53 then guess else guess + 1
    let q := max q (-1074)
    let m := roundAt n d q
    let (m, q) := if m = Nat.pow 2 53 then (Nat.pow 2 52, q + 1) else (m, q)
    if 971 < q then infinity negative
    else if m < Nat.pow 2 52 then ofFields negative 0 m
    else ofFields negative (q + 1075).toNat (m - Nat.pow 2 52)

/-- The number nearest to a whole number. -/
def ofInt (n : Int) : Binary64 := ofRatio (n < 0) n.natAbs 1

/-- The number nearest to `n · 10 ^ e`. -/
def ofDecimal (negative : Bool) (n : Nat) (e : Int) : Binary64 :=
  if n = 0 then zero negative
  else if 400 < e then infinity negative
  else if e < -400 - (Nat.log2 n : Int) then zero negative
  else if 0 ≤ e then ofRatio negative (n * Nat.pow 10 e.toNat) 1
  else ofRatio negative n (Nat.pow 10 (-e).toNat)

/-! ### Comparison -/

/-- Less-than of fractions. -/
def fractionLt (x y : Int × Nat) : Bool := x.1 * y.2 < y.1 * x.2

/-- Equality of fractions. -/
def fractionEq (x y : Int × Nat) : Bool := x.1 * y.2 == y.1 * x.2

/-- Numerical equality; what is not a number equals nothing. -/
def equal (x y : Binary64) : Bool :=
  if x.isNaN || y.isNaN then false
  else if x.isFinite && y.isFinite then fractionEq x.signedRatio y.signedRatio
  else x.bits == y.bits

/-- Numerical equality with a whole number. -/
def equalInt (x : Binary64) (n : Int) : Bool :=
  x.isFinite && fractionEq x.signedRatio (n, 1)

/-- Numerical order; what is not a number is not ordered. -/
def less (x y : Binary64) : Bool :=
  if x.isNaN || y.isNaN then false
  else if x.isFinite && y.isFinite then fractionLt x.signedRatio y.signedRatio
  else if x.isInfinite && y.isInfinite then x.isNegative && !y.isNegative
  else if x.isInfinite then x.isNegative
  else !y.isNegative

/-- Numerical order between a number and a whole number. -/
def lessInt (x : Binary64) (n : Int) : Bool :=
  if x.isNaN then false
  else if x.isFinite then fractionLt x.signedRatio (n, 1)
  else x.isNegative

/-- Numerical order between a whole number and a number. -/
def intLess (n : Int) (x : Binary64) : Bool :=
  if x.isNaN then false
  else if x.isFinite then fractionLt (n, 1) x.signedRatio
  else !x.isNegative

/-- The whole number next to a finite number towards zero. -/
def truncate (x : Binary64) : Int :=
  let (n, d) := x.signedRatio
  Int.tdiv n d

/-! ### Arithmetic -/

def toFloat (x : Binary64) : Float := Float.ofBits x.bits

def ofFloat (x : Float) : Binary64 := ⟨x.toBits⟩

def add (x y : Binary64) : Binary64 := ofFloat (x.toFloat + y.toFloat)

def sub (x y : Binary64) : Binary64 := ofFloat (x.toFloat - y.toFloat)

def mul (x y : Binary64) : Binary64 := ofFloat (x.toFloat * y.toFloat)

def div (x y : Binary64) : Binary64 := ofFloat (x.toFloat / y.toFloat)

def pow (x y : Binary64) : Binary64 := ofFloat (Float.pow x.toFloat y.toFloat)

/-- The number with the opposite sign. -/
def negate (x : Binary64) : Binary64 := ofFields (!x.isNegative) x.exponentField x.fractionField

/-- The number without its sign. -/
def abs (x : Binary64) : Binary64 := ofFields false x.exponentField x.fractionField

/-- A number with the sign of `y`. -/
def withSignOf (x y : Binary64) : Binary64 :=
  ofFields y.isNegative x.exponentField x.fractionField

/-- What is not a number. -/
def notANumber : Binary64 := ofFields false 2047 (Nat.pow 2 51)

/-- The exact remainder of a division by a nonzero number, with the sign of the dividend. -/
def remainder (x y : Binary64) : Binary64 :=
  if x.isNaN || y.isNaN || x.isInfinite then notANumber
  else if y.isInfinite then x
  else
    let (a, b) := x.ratio
    let (c, d) := y.ratio
    ofRatio x.isNegative (a * d % (c * b)) (b * d)

/-- The remainder of a division by a nonzero number, with the sign of the divisor. -/
def modulo (x y : Binary64) : Binary64 :=
  let r := x.remainder y
  if r.isZero then zero y.isNegative
  else if !r.isNaN && r.isNegative != y.isNegative then r.add y
  else r

/-- The quotient of a division by a nonzero number, rounded down to a whole number. It is worked out
from the remainder in floating-point steps, and so is off where the quotient has more digits than a
number holds. -/
def floorDiv (x y : Binary64) : Binary64 :=
  let r := x.remainder y
  let q := (x.sub r).div y
  let q := if !r.isZero && !r.isNaN && r.isNegative != y.isNegative
    then q.sub (ofInt 1) else q
  if q.isZero then zero (x.isNegative != y.isNegative)
  else
    let f := q.toFloat.floor
    ofFloat (if q.toFloat - f > 0.5 then f + 1.0 else f)

end Binary64

end HtmlTemplate.Number
