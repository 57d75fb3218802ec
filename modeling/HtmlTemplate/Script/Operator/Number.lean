import HtmlTemplate.Script.View

/-!
# Arithmetic

Operations on numbers. Whole numbers have any size and turn into floating-point numbers where the
other operand is one; truth values count as zero and one. `intOperation` and `floatOperation` give
nothing where numbers of a kind have no such operation.
-/

namespace HtmlTemplate.Script

open HtmlTemplate.Number

/-- The number that a value is, when it is one. -/
def Value.number? : Value → Option (Sum Int Binary64)
  | bool b => some (.inl b.toNat)
  | int _ n => some (.inl n)
  | float _ x => some (.inr x)
  | _ => none

/-- The real number that a value equals, when there is one. -/
def Value.real? : Value → Option (Sum Int Binary64)
  | complex _ z => if z.im.isZero then some (.inr z.re) else none
  | v => v.number?

/-- The whole number that a value is, when it is one. -/
def Value.int? : Value → Option Int
  | bool b => some b.toNat
  | int _ n => some n
  | _ => none

/-! ### Messages -/

/-- The sign of an operator in messages. -/
def BinaryOp.sign : BinaryOp → String
  | add => "+"
  | sub => "-"
  | mul => "*"
  | matMul => "@"
  | div => "/"
  | floorDiv => "//"
  | modulo => "%"
  | power => "**"
  | bitOr => "|"
  | bitXor => "^"
  | bitAnd => "&"
  | shiftLeft => "<<"
  | shiftRight => ">>"

/-- Raises the error that an operator does not go with the types of its operands. -/
def raiseUnsupported {α : Type} (sign : String) (a b : Value) : Run α := do
  raiseType ("unsupported operand type(s) for " ++ sign ++ ": '" ++ (← messageTypeOf a) ++
    "' and '" ++ (← messageTypeOf b) ++ "'")

/-- The sign of an operator, or of the assignment that applies it, in messages. -/
def operationSign (op : BinaryOp) (inPlace : Bool) : String :=
  if inPlace then op.sign ++ "=" else if op == .power then "** or pow()" else op.sign

/-! ### Conversion -/

/-- A whole number as a floating-point number. -/
def toFloat (n : Int) : Run Binary64 := do
  let x := Binary64.ofInt n
  if x.isFinite then return x else raiseOverflow "int too large to convert to float"

/-- A number as a floating-point number. -/
def numberToFloat : Sum Int Binary64 → Run Binary64
  | .inl n => toFloat n
  | .inr x => return x

/-! ### Whole numbers -/

/-- Division of whole numbers with a fractional result. -/
def divideInts (a b : Int) : Run Value := do
  if b = 0 then raise .zeroDivision "division by zero"
  else
    let x := Binary64.ofRatio ((a < 0) != (b < 0)) a.natAbs b.natAbs
    if x.isFinite then newFloat x
    else raiseOverflow "integer division result too large for a float"

/-- A power of complex numbers. -/
def complexPower (z w : ComplexNumber) : Run Value := do
  match z.power w with
  | .ok r => newComplex r
  | .error .ofZero => raise .zeroDivision "0.0 to a negative or complex power"
  | .error .tooLarge => raiseOverflow "complex exponentiation"

/-- A power of floating-point numbers, which is a complex number where a negative number has an
exponent that is not whole. -/
def floatPower (x y : Binary64) : Run Value := do
  if x.isZero && Binary64.less y (.zero false) then
    raise .zeroDivision "0.0 cannot be raised to a negative power"
  else if x.isFinite && !x.isZero && x.isNegative && y.isFinite && !y.equalInt y.truncate then
    complexPower (.ofReal x) (.ofReal y)
  else
    let r := x.pow y
    if r.isInfinite && x.isFinite && y.isFinite then do
      throw (.error .overflow [← newInt 34, .text "Numerical result out of range"])
    else newFloat r

/-- The least width of a word that holds a number and its sign. -/
def bitWidth (n : Int) : Nat := Nat.log2 n.natAbs + 2

/-- An operation on the digits of base two, those of negative numbers in two's complement. -/
def bitwise (op : Nat → Nat → Nat) (a b : Int) : Int :=
  let width := max (bitWidth a) (bitWidth b)
  let word (n : Int) : Nat := (n % (Nat.pow 2 width : Nat)).toNat
  let r := op (word a) (word b)
  if r < Nat.pow 2 (width - 1) then r else (r : Int) - (Nat.pow 2 width : Nat)

/-- A power of a whole number. -/
def intPower (a : Int) (n : Nat) : Int :=
  if a = 0 ∨ a = 1 ∨ a = -1 then if n = 0 then 1 else if n % 2 = 0 then a * a else a
  else Int.pow a n

/-- The most digits of base two that there is room for. -/
def shiftLimit : Int := (Nat.pow 2 36 : Nat)

/-- A whole number times a power of two. -/
def shiftedLeft (a b : Int) : Run Value := do
  if b < 0 then raise .value "negative shift count"
  else if a = 0 then newInt 0
  else if (Nat.pow 2 63 : Nat) ≤ b then raiseOverflow "too many digits in integer"
  else if shiftLimit < b then throw (.error .memory [])
  else newInt (a * Nat.pow 2 b.toNat)

/-- A whole number divided by a power of two and rounded down. -/
def shiftedRight (a b : Int) : Run Value := do
  if b < 0 then raise .value "negative shift count"
  else if (bitWidth a : Int) < b then newInt (if a < 0 then -1 else 0)
  else newInt (a / Nat.pow 2 b.toNat)

/-- An operation on whole numbers, when there is one. -/
def intOperation (op : BinaryOp) (a b : Int) : Option (Run Value) :=
  match op with
  | .add => some (newInt (a + b))
  | .sub => some (newInt (a - b))
  | .mul => some (newInt (a * b))
  | .matMul => none
  | .div => some (divideInts a b)
  | .floorDiv =>
    some (if b = 0 then raise .zeroDivision "integer division or modulo by zero"
      else newInt (Int.fdiv a b))
  | .modulo =>
    some (if b = 0 then raise .zeroDivision "integer modulo by zero" else newInt (Int.fmod a b))
  | .power =>
    some (if 0 ≤ b then newInt (intPower a b.toNat) else do floatPower (← toFloat a) (← toFloat b))
  | .bitOr => some (newInt (bitwise Nat.lor a b))
  | .bitXor => some (newInt (bitwise Nat.xor a b))
  | .bitAnd => some (newInt (bitwise Nat.land a b))
  | .shiftLeft => some (shiftedLeft a b)
  | .shiftRight => some (shiftedRight a b)

/-- The remainder of a power, worked out with small numbers; `bits` bounds the number of binary
digits of the exponent. -/
def powerModulo (modulus : Nat) : Nat → Nat → Nat → Nat
  | 0, _, _ => 1 % modulus
  | bits + 1, a, n =>
    if n = 0 then 1 % modulus
    else
      let half := powerModulo modulus bits (a * a % modulus) (n / 2)
      if n % 2 = 0 then half else half * a % modulus

/-- The inverse of a number modulo another, when there is one; `steps` bounds the number of
divisions. -/
def inverseModulo? (a modulus : Int) : Option Int :=
  let rec go : Nat → Int → Int → Int → Int → Option Int
    | 0, _, _, _, _ => none
    | steps + 1, r, r', t, t' =>
      if r' = 0 then if r = 1 then some (t % modulus) else none
      else go steps r' (r % r') t' (t - r / r' * t')
  go (2 * Nat.log2 modulus.natAbs + 4) modulus (a % modulus) 0 1

/-- A power of a whole number modulo another. -/
def powerOfInts (a n modulus : Int) : Run Value := do
  if modulus = 0 then raise .value "pow() 3rd argument cannot be 0"
  else
    let size : Int := modulus.natAbs
    let result (base exponent : Int) : Run Value :=
      let r : Int := powerModulo size.toNat (Nat.log2 exponent.toNat + 2) (base % size).toNat
        exponent.toNat
      newInt (if modulus < 0 ∧ r ≠ 0 then r + modulus else r)
    if 0 ≤ n then result a n
    else
      match inverseModulo? a size with
      | some inverse => result inverse (-n)
      | none =>
        if size = 1 then newInt 0
        else raise .value "base is not invertible for the given modulus"

/-! ### Floating-point numbers -/

/-- An operation on floating-point numbers, when there is one. -/
def floatOperation (op : BinaryOp) (x y : Binary64) : Option (Run Value) :=
  match op with
  | .add => some (newFloat (x.add y))
  | .sub => some (newFloat (x.sub y))
  | .mul => some (newFloat (x.mul y))
  | .div =>
    some (if y.isZero then raise .zeroDivision "float division by zero" else newFloat (x.div y))
  | .floorDiv =>
    some (if y.isZero then raise .zeroDivision "float floor division by zero"
      else newFloat (x.floorDiv y))
  | .modulo =>
    some (if y.isZero then raise .zeroDivision "float modulo" else newFloat (x.modulo y))
  | .power => some (floatPower x y)
  | _ => none

/-! ### Complex numbers -/

/-- A number as a complex number, when it is a number. -/
def toComplex? : Value → Option (Run ComplexNumber)
  | .complex _ z => some (return z)
  | v => v.number?.map fun x => return .ofReal (← numberToFloat x)

/-- An operation on complex numbers, when there is one. -/
def complexOperation (op : BinaryOp) (z w : ComplexNumber) : Option (Run Value) :=
  match op with
  | .add => some (newComplex (z.add w))
  | .sub => some (newComplex (z.sub w))
  | .mul => some (newComplex (z.mul w))
  | .div =>
    some (if w.isZero then raise .zeroDivision "complex division by zero" else newComplex (z.div w))
  | .power => some (complexPower z w)
  | _ => none

/-! ### Numbers of all kinds -/

/-- An operation on numbers, when there is one. -/
def numberOperation (op : BinaryOp) (a b : Value) : Option (Run Value) :=
  match a.number?, b.number? with
  | some (.inl m), some (.inl n) =>
    match op, a, b with
    | .bitAnd, .bool p, .bool q => some (return .bool (p && q))
    | .bitOr, .bool p, .bool q => some (return .bool (p || q))
    | .bitXor, .bool p, .bool q => some (return .bool (p != q))
    | _, _, _ => intOperation op m n
  | some x, some y =>
    if (floatOperation op default default).isNone then none
    else some do
      let x ← numberToFloat x
      let y ← numberToFloat y
      (floatOperation op x y).getD (newFloat x)
  | _, _ =>
    match toComplex? a, toComplex? b with
    | some z, some w =>
      if (complexOperation op default default).isNone then none
      else some do
        let z ← z
        let w ← w
        (complexOperation op z w).getD (newComplex z)
    | _, _ => none

/-- The value of an operation with one operand. -/
def unaryOperation (op : UnaryOp) (v : Value) : Run Value := do
  match op, v with
  | .plus, .int .. => return v
  | .plus, .float .. => return v
  | .plus, .bool b => newInt b.toNat
  | .plus, .complex .. => return v
  | .minus, .float _ x => newFloat x.negate
  | .minus, .complex _ z => newComplex z.negate
  | _, _ =>
    match op, v.int? with
    | .minus, some n => newInt (-n)
    | .invert, some n => newInt (-n - 1)
    | _, _ =>
      let sign := match op with
        | .plus => "+"
        | .minus => "-"
        | .invert => "~"
      raiseTypeOf ("bad operand type for unary " ++ sign ++ ": '") v "'"

/-- The quotient rounded down and the remainder of numbers. -/
def quotientAndRemainder (a b : Value) : Run Value := do
  match a.number?, b.number? with
  | some (.inl m), some (.inl n) =>
    if n = 0 then raise .zeroDivision "integer division or modulo by zero"
    else newTuple [← newInt (Int.fdiv m n), ← newInt (Int.fmod m n)]
  | some x, some y =>
    let x ← numberToFloat x
    let y ← numberToFloat y
    if y.isZero then raise .zeroDivision "float divmod()"
    else newTuple [← newFloat (x.floorDiv y), ← newFloat (x.modulo y)]
  | _, _ => raiseUnsupported "divmod()" a b

/-- A number without its sign. -/
def sizeOf (v : Value) : Run Value := do
  match v with
  | .float _ x => newFloat x.abs
  | .complex _ z =>
    let size := z.length
    if size.isInfinite && z.re.isFinite && z.im.isFinite then
      raiseOverflow "absolute value too large"
    else newFloat size
  | .int _ n => if 0 ≤ n then return v else newInt (-n)
  | .bool b => newInt b.toNat
  | _ => raiseTypeOf "bad operand type for abs(): '" v "'"

/-! ### Rounding -/

/-- A number rounded to a whole multiple of a power of ten, halves to the even one. -/
def roundedTo (v : Value) (places : Int) : Run Value := do
  match v with
  | .float _ x =>
    if !x.isFinite || 400 < places then newFloat x
    else if places < -400 then newFloat (.zero x.isNegative)
    else
      let (n, d) := x.ratio
      let q := if 0 ≤ places then Binary64.roundDiv (n * Nat.pow 10 places.toNat) d
        else Binary64.roundDiv n (d * Nat.pow 10 (-places).toNat)
      let r := Binary64.ofDecimal x.isNegative q (-places)
      if r.isFinite then newFloat r else raiseOverflow "rounded value too large to represent"
  | v =>
    match v.int? with
    | some n =>
      if 0 ≤ places then match v with
        | .int .. => return v
        | _ => newInt n
      else if (Nat.log2 n.natAbs : Int) + 2 < -places then newInt 0
      else
        let unit := Nat.pow 10 (-places).toNat
        let q := (Binary64.roundDiv n.natAbs unit * unit : Nat)
        newInt (if n < 0 then -(q : Int) else q)
    | none => raiseTypeOf "type " v " doesn't define __round__ method"

/-- The whole number next to a floating-point number in the way that `pick` chooses. -/
def wholeOf (pick : Binary64 → Int) (x : Binary64) : Run Value := do
  if x.isNaN then raise .value "cannot convert float NaN to integer"
  else if x.isInfinite then raiseOverflow "cannot convert float infinity to integer"
  else newInt (pick x)

/-- A floating-point number rounded to a whole number, halves to the even one. -/
def nearestWhole (x : Binary64) : Int :=
  let (n, d) := x.ratio
  let q := Binary64.roundDiv n d
  if x.isNegative then -(q : Int) else q

/-- A number rounded to a whole number, halves to the even one. -/
def roundedWhole (v : Value) : Run Value := do
  match v with
  | .float _ x => wholeOf nearestWhole x
  | .int .. => return v
  | .bool b => newInt b.toNat
  | _ => raiseTypeOf "type " v " doesn't define __round__ method"

end HtmlTemplate.Script
