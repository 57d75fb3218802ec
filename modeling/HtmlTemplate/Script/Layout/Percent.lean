import HtmlTemplate.Script.Layout.Spec
import HtmlTemplate.Script.Operator.Sequence

/-!
# Formatted values

`formatted` writes a value by the text of a layout, and `percentText` fills in the places in a text
that percent signs mark.
-/

namespace HtmlTemplate.Script

open HtmlTemplate.Number HtmlTemplate.Text

/-- A result, or an error of values with the message. -/
def orRaise {α : Type} : Except String α → Run α
  | .ok a => return a
  | .error text => raise .value text

/-- A value written by the text of a layout. -/
def formatted (v : Value) (layout : String) : Run Value := do
  if layout.isEmpty then
    match v with
    | .str .. => return v
    | _ => newStr (← textOf v)
  else
    let type ← messageTypeOf v
    match v with
    | .str _ s => do
      let l ← orRaise (Layout.parse type '<' layout)
      checkRoom l
      let written ← orRaise (layoutText l s)
      if written == s then return v else newStr written
    | .float _ x => do
      let l ← orRaise (Layout.parse type '>' layout)
      checkRoom l
      checkPrecision l
      newStr (← orRaise (layoutFloat l x))
    | .complex _ z => do
      let l ← orRaise (Layout.parse type '>' layout)
      checkRoom l
      checkPrecision l
      newStr (← orRaise (layoutComplex l z))
    | _ =>
      match v.int? with
      | some n => do
        let l ← orRaise (Layout.parse type '>' layout)
        checkRoom l
        let form := l.form?.getD 'd'
        if isFractionalForm form then do
          checkPrecision l
          newStr (← orRaise (layoutFloat l (← toFloat n)))
        else if "bcdoxXn".toList.contains form then
          let written ← orRaise (layoutWhole l form n)
          if form == 'c' && !isIndex n then
            raiseOverflow "Python int too large to convert to C long"
          else if form == 'c' && (n < 0 || 0x110000 ≤ n) then
            raiseOverflow "%c arg not in range(0x110000)"
          else newStr written
        else raise .value (Layout.unknownForm form type)
      | none => raiseTypeOf "unsupported format string passed to " v ".__format__"
where
  /-- Refuses more room than there is. -/
  checkRoom (l : Layout) : Run Unit := do
    if roomLimit ≤ l.width?.getD 0 then throw (.error .memory []) else return ()
  /-- Refuses more digits than can be asked for. -/
  checkPrecision (l : Layout) : Run Unit := do
    if Nat.pow 2 31 ≤ l.precision?.getD 0 then raise .value "precision too big" else return ()

/-! ### Percent signs -/

/-- What stands between a percent sign and its letter. -/
structure PercentSpec where
  flags : List Char := []
  width? : Option Int := none
  precision? : Option Nat := none

/-- The values that are filled in. -/
structure Supply where
  left : List Value
  /-- The value whose items are named, if there is one. -/
  mapping? : Option Value
  /-- Whether values may be left over. -/
  lenient : Bool

/-- The next of the values. -/
def nextValue : StateT Supply Run Value := do
  match (← get).left with
  | v :: vs =>
    modify fun s => { s with left := vs }
    return v
  | [] => (raiseType "not enough arguments for format string" : Run Value)

/-- Splits a name off at the parenthesis that closes it; `depth` are those open inside. -/
def splitKey : Nat → List Char → Option (List Char × List Char)
  | _, [] => none
  | depth, c :: cs =>
    if c == ')' then
      match depth with
      | 0 => some ([], cs)
      | d + 1 => (splitKey d cs).map fun (k, rest) => (c :: k, rest)
    else (splitKey (if c == '(' then depth + 1 else depth) cs).map fun (k, rest) => (c :: k, rest)

/-- Reads a number or a star, which stands for the next of the values. The number has to fit into a
`word`, and is below a limit. -/
def percentNumber (what word : String) (limit : Nat) (cs : List Char) :
    StateT Supply Run (Option Int × List Char) := do
  match cs with
  | '*' :: rest =>
    match (← nextValue).int? with
    | some n =>
      if (limit : Int) ≤ n ∨ n < -(limit : Int) then
        (raiseOverflow ("Python int too large to convert to C " ++ word) : Run _)
      else if roomLimit ≤ n.natAbs then throw (.error .memory [])
      else return (some n, rest)
    | none => (raiseType "* wants int" : Run _)
  | _ =>
    let digits := cs.takeWhile Char.isDigit
    let n := digits.foldl (fun n c => 10 * n + (c.toNat - '0'.toNat)) 0
    if digits.isEmpty then return (none, cs)
    else if limit ≤ n then (raise .value what : Run _)
    else if roomLimit ≤ n then throw (.error .memory [])
    else return (some n, cs.drop digits.length)

/-- Reads what stands after a percent sign up to the letter. -/
def percentSpec (cs : List Char) : StateT Supply Run (PercentSpec × List Char) := do
  let (key?, cs) ← match cs with
    | '(' :: rest => do
      if (← get).mapping?.isNone then (raiseType "format requires a mapping" : Run Unit)
      match splitKey 0 rest with
      | some (key, rest) => pure (some (String.ofList key), rest)
      | none => (raise .value "incomplete format key" : Run _)
    | _ => pure (none, cs)
  if let (some key, some mapping) := (key?, (← get).mapping?) then
    let v ← itemOf mapping (← newStr key)
    modify fun s => { s with left := [v], lenient := true }
  let flags := cs.takeWhile "-+ #0".toList.contains
  let (width?, cs) ← percentNumber "width too big" "ssize_t" (Nat.pow 2 63) (cs.drop flags.length)
  let flags := if width?.any (· < 0) then '-' :: flags else flags
  let (precision?, cs) ← match cs with
    | '.' :: rest => do
      let (n?, rest) ← percentNumber "precision too big" "int" (Nat.pow 2 31) rest
      pure (some (n?.getD 0).toNat, rest)
    | _ => pure (none, cs)
  let cs := match cs with
    | c :: rest => if c == 'h' || c == 'l' || c == 'L' then rest else cs
    | [] => cs
  return (⟨flags, width?, precision?⟩, cs)

/-- Characters with room around them: a sign, what stands before the digits, and the rest. -/
def PercentSpec.pad (spec : PercentSpec) (zeros : Bool) (sign before body : List Char) :
    List Char :=
  let width := (spec.width?.map Int.natAbs).getD 0
  let missing := width - (sign.length + before.length + body.length)
  if spec.flags.contains '-' then sign ++ before ++ body ++ List.replicate missing ' '
  else if zeros && spec.flags.contains '0' then
    sign ++ before ++ List.replicate missing '0' ++ body
  else List.replicate missing ' ' ++ sign ++ before ++ body

/-- The sign of a number. -/
def PercentSpec.sign (spec : PercentSpec) (negative : Bool) : List Char :=
  if negative then ['-'] else if spec.flags.contains '+' then ['+']
  else if spec.flags.contains ' ' then [' '] else []

/-- The whole number that a value stands for in a place with a letter. -/
def percentInt (letter : Char) (v : Value) : Run Int := do
  match v with
  | .float _ x =>
    if "oxX".toList.contains letter then
      raiseTypeOf ("%" ++ String.singleton letter ++ " format: an integer is required, not ") v ""
    else if x.isNaN then raise .value "cannot convert float NaN to integer"
    else if x.isInfinite then raiseOverflow "cannot convert float infinity to integer"
    else return x.truncate
  | v =>
    match v.int? with
    | some n => return n
    | none =>
      let wanted := if "oxX".toList.contains letter then "an integer" else "a real number"
      raiseTypeOf ("%" ++ String.singleton letter ++ " format: " ++ wanted ++ " is required, not ")
        v ""

/-- A value as it is filled in at a place with a letter; `index` is the place of the letter. -/
def percentValue (spec : PercentSpec) (letter : Char) (index : Nat) (v : Value) :
    Run (List Char) := do
  let cut (s : String) : List Char := match spec.precision? with
    | some p => s.toList.take p
    | none => s.toList
  match letter with
  | 's' => return spec.pad false [] [] (cut (← textOf v))
  | 'r' => return spec.pad false [] [] (cut (← shown v))
  | 'a' => return spec.pad false [] [] (cut (escapeBeyond (← shown v)))
  | 'c' =>
    match v with
    | .str _ s =>
      if s.length = 1 then return spec.pad false [] [] s.toList
      else raiseType "%c requires int or char"
    | v =>
      match v.int? with
      | some n =>
        match if n < 0 then none else ofCodePoint? n.toNat with
        | some c => return spec.pad false [] [] [c]
        | none => raiseOverflow "%c arg not in range(0x110000)"
      | none => raiseType "%c requires int or char"
  | _ =>
    if "diuoxX".toList.contains letter then
      let n ← percentInt letter v
      let (base, before) := match letter with
        | 'o' => (8, ['0', 'o'])
        | 'x' => (16, ['0', 'x'])
        | 'X' => (16, ['0', 'X'])
        | _ => (10, [])
      let digits := Nat.toDigits base n.natAbs
      let digits := if letter == 'X' then digits.map Char.toUpper else digits
      let digits := List.replicate (spec.precision?.getD 0 - digits.length) '0' ++ digits
      return spec.pad true (spec.sign (n < 0)) (if spec.flags.contains '#' then before else [])
        digits
    else if "eEfFgG".toList.contains letter then
      match v.number? with
      | some x =>
        let x ← numberToFloat x
        let written := floatForm (some letter) (spec.flags.contains '#') spec.precision? x
        let written := if letter.isUpper then written.map Char.toUpper else written
        return spec.pad true (spec.sign (x.isNegative && !x.isNaN)) [] written
      | none => raiseTypeOf "must be real number, not " v ""
    else
      let shownLetter := if 32 ≤ letter.toNat ∧ letter.toNat < 127 then letter else '?'
      raise .value ("unsupported format character '" ++ String.singleton shownLetter ++ "' (0x" ++
        String.ofList (Nat.toDigits 16 (codePoint letter)) ++ ") at index " ++ toString index)

/-- Fills in the places of a text; `fuel` bounds the number of its characters, and `size` is the
length of the whole text. -/
def percentParts (size : Nat) : Nat → List Char → StateT Supply Run (List Char)
  | 0, _ => return []
  | _ + 1, [] => return []
  | fuel + 1, c :: cs => do
    if c != '%' then return c :: (← percentParts size fuel cs)
    else
      match cs with
      | '%' :: rest => return '%' :: (← percentParts size fuel rest)
      | _ =>
        let (spec, rest) ← percentSpec cs
        match rest with
        | [] => (raise .value "incomplete format" : Run _)
        | letter :: rest =>
          let v ← nextValue
          let written ← percentValue spec letter (size - rest.length - 1) v
          return written ++ (← percentParts size fuel rest)

/-- A text with values in the places that percent signs mark. -/
def percentText (s : String) (args : Value) : Run Value := do
  let isMapping ← match args with
    | .bytes .. => pure true
    | .range .. => pure true
    | .object n =>
      match ← objectAt n with
      | .list _ => pure true
      | .dict _ => pure true
      | .props _ => pure true
      | _ => pure false
    | _ => pure false
  let left := match args with
    | .tuple _ items => items
    | v => [v]
  let supply : Supply := ⟨left, if isMapping then some args else none, isMapping⟩
  let cs := s.toList
  let (written, supply) ← (percentParts cs.length (cs.length + 1) cs).run supply
  if !supply.left.isEmpty && !supply.lenient then
    raiseType "not all arguments converted during string formatting"
  else
    match s, left with
    | "%s", [v@(.str ..)] => return v
    | _, _ => newStr (String.ofList written)

end HtmlTemplate.Script
