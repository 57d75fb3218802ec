import HtmlTemplate.Script.Library.Attribute

/-!
# Methods of numbers

The methods of whole, floating-point and complex numbers.
-/

namespace HtmlTemplate.Script

open HtmlTemplate.Number HtmlTemplate.Text

/-- The number of ones among the binary digits of a number. -/
def countOnes (n : Nat) : Nat := (Nat.toDigits 2 n).count '1'

/-- The number of binary digits of a number; zero has none. -/
def countBits (n : Nat) : Nat := if n = 0 then 0 else Nat.log2 n + 1

/-- A floating-point number in hexadecimal digits with a binary exponent. -/
def hexText (x : Binary64) : String :=
  let sign := if x.isNegative then "-" else ""
  if x.isNaN then "nan"
  else if x.isInfinite then sign ++ "inf"
  else if x.isZero then sign ++ "0x0.0p+0"
  else
    let (n, d) := x.ratio
    let exponent : Int := (Nat.log2 n : Int) - Nat.log2 d
    let subnormal := exponent < -1022
    let power := max exponent (-1022)
    let digits := if 0 ≤ power then n * Nat.pow 2 52 / (d * Nat.pow 2 power.toNat)
      else n * Nat.pow 2 (52 + (-power).toNat) / d
    let rest := digits % Nat.pow 2 52
    sign ++ (if subnormal then "0x0." else "0x1.") ++ String.ofList (hexDigits 13 rest) ++ "p" ++
      (if power < 0 then "-" else "+") ++ toString power.natAbs

/-- The numerator and the denominator of a number in least terms. -/
def ratioOf (v : Value) : Run Value := do
  match v with
  | .float _ x =>
    if x.isNaN then raise .value "cannot convert NaN to integer ratio"
    else if x.isInfinite then raiseOverflow "cannot convert Infinity to integer ratio"
    else
      let (n, d) := x.ratio
      let shared := Nat.gcd n d
      let top : Int := (n / shared : Nat)
      newTuple [← newInt (if x.isNegative then -top else top), ← newInt (d / shared : Nat)]
  | v => newTuple [← newInt (v.int?.getD 0), ← newInt 1]

/-- The value of a method of a number. -/
def callNumberMethod (v : Value) (name : String) (args : List Value) (named : Named) :
    Run Value := do
  let type := methodOwner (← typeOf v)
  checkArguments name (type ++ "." ++ name) ((methodRule? type name).getD .free) args named
  match name, v with
  | "as_integer_ratio", _ => ratioOf v
  | "conjugate", .bool b => newInt b.toNat
  | "conjugate", .complex _ z => newComplex z.conjugate
  | "conjugate", _ => return v
  | "is_integer", .float _ x => return .bool (x.isFinite && x.equalInt x.truncate)
  | "hex", .float _ x => newStr (hexText x)
  | name, v =>
    let n := (v.int?.getD 0).natAbs
    newInt (if name == "bit_count" then countOnes n else countBits n)

end HtmlTemplate.Script
