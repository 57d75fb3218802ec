import HtmlTemplate.Number.DecimalText
import HtmlTemplate.Script.Library.Arguments
import HtmlTemplate.Script.Operation
import HtmlTemplate.Text.Encoding

/-!
# Conversion

How the functions of the library take values: as whole numbers, as floating-point numbers and as
texts. `wholeFromText` reads the text of a number, `encodedText` and `decodedBytes` go between texts
and bytes, and `lengthOf` counts the members of a value.
-/

namespace HtmlTemplate.Script

open HtmlTemplate.Number HtmlTemplate.Text

/-! ### Arguments -/

/-- The whole number that an argument is. -/
def wholeArgument (v : Value) : Run Int := do
  match v.int? with
  | some n => return n
  | none => raiseTypeOf "'" v "' object cannot be interpreted as an integer"

/-- The whole number that an argument is, which has to be small enough for a size. -/
def sizeArgument (v : Value) : Run Int := do
  let n ← wholeArgument v
  if isIndex n then return n
  else raiseOverflow "Python int too large to convert to C ssize_t"

/-- The whole number that an argument is, which has to fit into half a word. -/
def shortArgument (v : Value) : Run Int := do
  let n ← wholeArgument v
  if -(Nat.pow 2 31 : Int) ≤ n ∧ n < (Nat.pow 2 31 : Int) then return n
  else raiseOverflow "Python int too large to convert to C int"

/-- The name of the type of an argument in messages, or nothing by its own name. -/
def argumentType (v : Value) : Run String := do
  match v with
  | .nothing => return "None"
  | v => messageTypeOf v

/-- The text that an argument of a function is; `place` tells which one it is. -/
def textArgument (name place : String) (v : Value) : Run String := do
  match v with
  | .str _ s => return s
  | v => do
    let type ← argumentType v
    raiseType (name ++ "() argument " ++ place ++ " must be str, not " ++ type)

/-- The start of a written form. -/
def excerpt (s : String) : String := String.ofList (s.toList.take 200)

/-! ### Whole numbers -/

/-- The characters of bytes that write a number. -/
def bytesText (b : List UInt8) : String :=
  String.ofList (b.map fun x => if x.toNat < 128 then Char.ofNat x.toNat else '?')

/-- The whole number that a text writes in a base; `form` is the text in messages. -/
def wholeFromText (base : Nat) (s form : String) : Run Value := do
  let digits := digitCount base s
  if Datum.digitLimit < digits then
    raise .value ("Exceeds the limit (4300 digits) for integer string conversion: value has " ++
      toString digits ++ " digits; use sys.set_int_max_str_digits() to increase the limit")
  else
    match readIntIn? base s with
    | some n => newInt n
    | none => raise .value ("invalid literal for int() with base " ++ toString base ++ ": " ++
      excerpt form)

/-- The whole number that a text or bytes write in a base. -/
def wholeFromDigits? (base : Nat) (v : Value) : Option (Run Value) :=
  match v with
  | .str _ s => some (wholeFromText base s (quote s))
  | .bytes _ b => some (wholeFromText base (bytesText b) (quoteBytes (b.take 200)))
  | _ => none

/-- A value as a whole number. -/
def toWhole (v : Value) : Run Value := do
  match v with
  | .int .. => return v
  | .bool b => newInt b.toNat
  | .float _ x => wholeOf Binary64.truncate x
  | _ =>
    match wholeFromDigits? 10 v with
    | some read => read
    | none =>
      raiseTypeOf "int() argument must be a string, a bytes-like object or a real number, not '" v
        "'"

/-- The whole number that a value writes in the base that another one is. -/
def toWholeIn (v base : Value) : Run Value := do
  let b ← wholeArgument base
  if b ≠ 0 ∧ (b < 2 ∨ 36 < b) then raise .value "int() base must be >= 2 and <= 36, or 0"
  else
    match wholeFromDigits? b.toNat v with
    | some read => read
    | none => raiseType "int() can't convert non-string with explicit base"

/-! ### Floating-point numbers -/

/-- A value as a floating-point number. -/
def toFloatValue (v : Value) : Run Value := do
  let read (s form : String) : Run Value := do
    match readFloat? s with
    | some x => newFloat x
    | none => raise .value ("could not convert string to float: " ++ form)
  match v with
  | .float .. => return v
  | .bool b => newFloat (.ofInt b.toNat)
  | .int _ n => newFloat (← toFloat n)
  | .str _ s => read s (quote s)
  | .bytes _ b => read (bytesText b) (quoteBytes b)
  | _ => raiseTypeOf "float() argument must be a string or a real number, not '" v "'"

/-! ### Texts and bytes -/

/-- The encoding of a name. -/
def encodingOf (name : String) : Run Encoding := do
  match Encoding.ofName? name with
  | some e => return e
  | none => raise .lookup ("unknown encoding: " ++ name)

/-- What to do about faults, by its name. -/
def faultPolicyOf (name : String) : Run FaultPolicy := do
  match FaultPolicy.ofName? name with
  | some policy => return policy
  | none => raise .lookup ("unknown error handler name '" ++ name ++ "'")

/-- The bytes of a text in an encoding. -/
def encodedText (s : String) (encoding policy : String) : Run Value := do
  let e ← encodingOf encoding
  match e.encode .refuse s with
  | .ok bytes => newBytes bytes
  | .error fault =>
    let policy ← faultPolicyOf policy
    match e.encode policy s with
    | .ok bytes => newBytes bytes
    | .error _ => raise .encoding (e.encodeMessage s fault)

/-- The text of bytes in an encoding. -/
def decodedBytes (bytes : List UInt8) (encoding policy : String) : Run Value := do
  if bytes.isEmpty then newStr ""
  else
    let e ← encodingOf encoding
    match e.decode .refuse bytes with
    | .ok s => newStr s
    | .error fault =>
      let policy ← faultPolicyOf policy
      match e.decode policy bytes with
      | .ok s => newStr s
      | .error _ => raise .decoding (e.decodeMessage bytes fault)

/-- A value as text, by way of an encoding where one is given. -/
def toText (v? encoding? policy? : Option Value) : Run Value := do
  let encoding? ← encoding?.mapM (textArgument "str" "'encoding'")
  let policy? ← policy?.mapM (textArgument "str" "'errors'")
  match v? with
  | none => newStr ""
  | some v =>
    if encoding?.isNone && policy?.isNone then
      match v with
      | .str .. => return v
      | _ => newStr (← textOf v)
    else
      match v with
      | .bytes _ b => decodedBytes b (encoding?.getD "utf-8") (policy?.getD "strict")
      | .str .. => raiseType "decoding str is not supported"
      | _ => raiseTypeOf "decoding to str: need a bytes-like object, " v " found"

/-- The character of a code point. -/
def toCharacter (v : Value) : Run Value := do
  let n ← shortArgument v
  match if n < 0 then none else ofCodePoint? n.toNat with
  | some c => newStr (String.singleton c)
  | none => raise .value "chr() arg not in range(0x110000)"

/-- The code point of a character. -/
def toCodePoint (v : Value) : Run Value := do
  let refuse (size : Nat) : Run Value :=
    raiseType ("ord() expected a character, but string of length " ++ toString size ++ " found")
  match v with
  | .str _ s =>
    match s.toList with
    | [c] => newInt (codePoint c)
    | cs => refuse cs.length
  | .bytes _ [b] => newInt b.toNat
  | .bytes _ b => refuse b.length
  | _ => raiseTypeOf "ord() expected string of length 1, but " v " found"

/-! ### Members -/

/-- The number of members of a value. -/
def lengthOf (v : Value) : Run Nat := do
  let refuse : Run Nat := raiseTypeOf "object of type '" v "' has no len()"
  match v with
  | .str _ s => return s.length
  | .bytes _ b => return b.length
  | .tuple _ items => return items.length
  | .range _ a b c =>
    let size := Datum.rangeLength a b c
    if isIndex size then return size
    else raiseOverflow "Python int too large to convert to C ssize_t"
  | .object n =>
    match ← objectAt n with
    | .list items => return items.length
    | .dict table => return table.entries.length
    | .set _ items => return items.length
    | .view _ d => return (← tableOf d).entries.length
    | _ => refuse
  | _ => refuse

end HtmlTemplate.Script
