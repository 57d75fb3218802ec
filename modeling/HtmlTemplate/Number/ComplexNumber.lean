import HtmlTemplate.Number.DecimalText

/-!
# Complex numbers

A `ComplexNumber` has a real and an imaginary part, both floating-point. A product takes one rounding
for each of its operations; a quotient is scaled by the greater part of the divisor, so that it is
finite wherever the parts allow it. `power` multiplies for small whole exponents and goes over length
and angle for all others.
-/

namespace HtmlTemplate.Number

open HtmlTemplate.Text

/-- A number with a real and an imaginary part. -/
structure ComplexNumber where
  re : Binary64
  im : Binary64
deriving DecidableEq, Repr, Inhabited

/-- What can go wrong with a power. -/
inductive PowerFlaw
  /-- Zero has no power with a negative real part or with an imaginary part. -/
  | ofZero
  | tooLarge
deriving DecidableEq, Repr

namespace ComplexNumber

/-- A real number. -/
def ofReal (x : Binary64) : ComplexNumber := ⟨x, .zero false⟩

/-- A multiple of the imaginary unit. -/
def ofImaginary (x : Binary64) : ComplexNumber := ⟨.zero false, x⟩

def isZero (z : ComplexNumber) : Bool := z.re.isZero && z.im.isZero

/-- Numerical equality of both parts. -/
def equal (z w : ComplexNumber) : Bool := z.re.equal w.re && z.im.equal w.im

/-! ### Arithmetic -/

def add (z w : ComplexNumber) : ComplexNumber := ⟨z.re.add w.re, z.im.add w.im⟩

def sub (z w : ComplexNumber) : ComplexNumber := ⟨z.re.sub w.re, z.im.sub w.im⟩

def mul (z w : ComplexNumber) : ComplexNumber :=
  ⟨(z.re.mul w.re).sub (z.im.mul w.im), (z.re.mul w.im).add (z.im.mul w.re)⟩

def negate (z : ComplexNumber) : ComplexNumber := ⟨z.re.negate, z.im.negate⟩

/-- The number with the opposite imaginary part. -/
def conjugate (z : ComplexNumber) : ComplexNumber := ⟨z.re, z.im.negate⟩

/-- The quotient of a division by a number other than zero. -/
def div (z w : ComplexNumber) : ComplexNumber :=
  let notLess (x y : Binary64) : Bool := y.less x || x.equal y
  if notLess w.re.abs w.im.abs then
    let ratio := w.im.div w.re
    let scale := w.re.add (w.im.mul ratio)
    ⟨(z.re.add (z.im.mul ratio)).div scale, (z.im.sub (z.re.mul ratio)).div scale⟩
  else if notLess w.im.abs w.re.abs then
    let ratio := w.re.div w.im
    let scale := (w.re.mul ratio).add w.im
    ⟨((z.re.mul ratio).add z.im).div scale, ((z.im.mul ratio).sub z.re).div scale⟩
  else ⟨.notANumber, .notANumber⟩

/-- The root of `x * x + y * y`, where `y` is at most `x` and neither is so large or so small that
its square is out of range. The root of the rounded sum is mended by one step towards the root of the
exact one. -/
def rootOfSquares (x y : Float) : Float :=
  let h := (x * x + y * y).sqrt
  if h ≤ 2.0 * y then
    let d := h - y
    h - (x * (2.0 * d - x) + (d - 2.0 * (x - y)) * d) / (2.0 * h)
  else
    let d := h - x
    h - (2.0 * d * (x - 2.0 * y) + ((4.0 * d - y) * y + d * d)) / (2.0 * h)

/-- The distance from zero; parts whose squares would be out of range are scaled. -/
def length (z : ComplexNumber) : Binary64 :=
  if z.re.isInfinite || z.im.isInfinite then .infinity false
  else if z.re.isNaN || z.im.isNaN then .notANumber
  else
    let swap := z.re.abs.less z.im.abs
    let x := (if swap then z.im else z.re).abs.toFloat
    let y := (if swap then z.re else z.im).abs.toFloat
    let scale : Float :=
      if Float.scaleB 1.0 511 < x then Float.scaleB 1.0 (-600)
      else if y < Float.scaleB 1.0 (-459) then Float.scaleB 1.0 600 else 1.0
    .ofFloat (if y ≤ x * Float.scaleB 1.0 (-54) then x + y
      else rootOfSquares (x * scale) (y * scale) / scale)

/-- The angle with the positive real numbers. -/
def angle (z : ComplexNumber) : Binary64 := .ofFloat (Float.atan2 z.im.toFloat z.re.toFloat)

/-! ### Powers -/

/-- A power with a whole exponent, by repeated squaring of `base`; `bits` bounds the number of binary
digits of the exponent. -/
def naturalPower (base : ComplexNumber) : Nat → Nat → ComplexNumber → ComplexNumber
  | 0, _, product => product
  | bits + 1, n, product =>
    if n = 0 then product
    else naturalPower (base.mul base) bits (n / 2) (if n % 2 = 1 then product.mul base else product)

/-- The number one. -/
def one : ComplexNumber := ofReal (.ofInt 1)

/-- The power of a number other than zero by length and angle. -/
def polarPower (z w : ComplexNumber) : ComplexNumber :=
  let size := z.length
  let scale := size.pow w.re
  let turn := z.angle.mul w.re
  let (scale, turn) :=
    if w.im.isZero then (scale, turn)
    else (scale.div (.ofFloat (z.angle.mul w.im).toFloat.exp),
      turn.add (w.im.mul (.ofFloat size.toFloat.log)))
  ⟨scale.mul (.ofFloat turn.toFloat.cos), scale.mul (.ofFloat turn.toFloat.sin)⟩

/-- The greatest whole exponent whose power is a product. -/
def productLimit : Int := 100

/-- The whole number that an exponent is, when its power is a product. -/
def smallWhole? (w : ComplexNumber) : Option Int :=
  if w.im.isZero && w.re.isFinite && w.re.equalInt w.re.truncate
      && w.re.truncate.natAbs ≤ productLimit.natAbs then some w.re.truncate
  else none

/-- A power, where there is one. -/
def power (z w : ComplexNumber) : Except PowerFlaw ComplexNumber := do
  let r ← match smallWhole? w with
    | some n =>
      if 0 < n then pure (naturalPower z 7 n.toNat one)
      else
        let divisor := naturalPower z 7 n.natAbs one
        if divisor.isZero then throw .ofZero else pure (one.div divisor)
    | none =>
      if w.isZero then pure one
      else if !z.isZero then pure (polarPower z w)
      else if !w.im.isZero || w.re.isNegative then throw .ofZero
      else pure (ofReal (.zero false))
  if r.re.isInfinite || r.im.isInfinite then throw .tooLarge else return r

/-! ### Texts -/

/-- A part as text; a whole number has no point. -/
def partText (x : Binary64) : String :=
  let text := (floatText x).toList
  String.ofList (if text.drop (text.length - 2) == ".0".toList then text.take (text.length - 2)
    else text)

/-- The imaginary part with its sign. -/
def signedText (x : Binary64) : String :=
  (if x.isNegative && !x.isNaN then "" else "+") ++ partText x

/-- A complex number as text: its imaginary part alone where the real part is a positive zero. -/
def text (z : ComplexNumber) : String :=
  if z.re == .zero false then partText z.im ++ "j"
  else "(" ++ partText z.re ++ signedText z.im ++ "j)"

end ComplexNumber

end HtmlTemplate.Number
