import HtmlTemplate.Script.Library.Attribute
import HtmlTemplate.Script.Library.Sorting

/-!
# Methods of rows

The methods of lists, tuples, ranges and slices. While a list is sorted it is empty, so that keys
are computed without a view of it; what has been put in order remains so when keys cannot be
compared.
-/

namespace HtmlTemplate.Script

/-- The place from which, or up to which, a value is looked for. -/
def searchBound (size : Nat) (ifNone : Nat) (v? : Option Value) : Run Nat := do
  match v? with
  | none => return ifNone
  | some v =>
    match v.int? with
    | some n => return (max 0 (if n < 0 then n + size else n)).toNat
    | none => raiseType "slice indices must be integers or have an __index__ method"

/-- The place of the first value that is equal to another, between two bounds. -/
def placeBetween (v : Value) (items : List Value) (bounds : List Value) : Run (Option Nat) := do
  let start ← searchBound items.length 0 bounds[0]?
  let stop ← searchBound items.length items.length bounds[1]?
  return (← indexIn v ((items.take stop).drop start)).map (start + ·)

section

variable (perform : Perform)

/-- Sorts a list where it is. -/
def sortList (n : Nat) (key? reverse? : Option Value) : Run Value := do
  let backwards ← isBackwards reverse?
  let items := (← listItems n).getD []
  setObject n (.list [])
  let keys ← tryCatch (keyed perform key? items) fun r => do
    setObject n (.list items)
    throw r
  let (sorted, text?) := arrange backwards keys
  let touched := !((← listItems n).getD []).isEmpty
  setObject n (.list (sorted.map (·.2)))
  match text? with
  | some text => raiseType text
  | none =>
    if touched then raise .value "list modified during sort" else return .nothing

/-- Takes the member at an index out of a list. -/
def popItem (n : Nat) (items : List Value) (index? : Option Value) : Run Value := do
  let index ← match index? with
    | some v => sizeArgument v
    | none => pure (-1)
  if items.isEmpty then raise .index "pop from empty list"
  else
    match (place? items.length index).bind fun p => (items[p]?).map (p, ·) with
    | none => raise .index "pop index out of range"
    | some (p, v) =>
      setObject n (.list (items.eraseIdx p))
      return v

/-- The value of a method of a list. -/
def callListMethod (n : Nat) (items : List Value) (name : String) (args : List Value)
    (named : Named) : Run Value := do
  let become (items : List Value) : Run Value := do
    setObject n (.list items)
    return .nothing
  match methodRule? "list" name with
  | some (.keyed k) =>
    let given ← keyedArguments name k args named
    sortList perform n (given[0]?).join (given[1]?).join
  | rule? => do
    checkArguments name ("list." ++ name) (rule?.getD .free) args named
    match name, args with
    | "append", [v] => become (items ++ [v])
    | "extend", [v] => do
      extendList perform n v
      return .nothing
    | "insert", [i, v] =>
      let i ← sizeArgument i
      let size : Int := items.length
      let p := (max 0 (min size (if i < 0 then i + size else i))).toNat
      become (items.take p ++ v :: items.drop p)
    | "pop", args => popItem n items args[0]?
    | "remove", [v] =>
      match ← indexIn v items with
      | none => raise .value "list.remove(x): x not in list"
      | some p => become (items.eraseIdx p)
    | "index", v :: bounds =>
      match ← placeBetween v items bounds with
      | none => raise .value ((← shown v) ++ " is not in list")
      | some p => newInt p
    | "count", [v] => newInt (← countIn v items)
    | "reverse", _ => become items.reverse
    | "clear", _ => become []
    | "copy", _ => newList items
    | _, _ => return .nothing

end

/-- The value of a method of a tuple. -/
def callTupleMethod (items : List Value) (name : String) (args : List Value) (named : Named) :
    Run Value := do
  checkArguments name ("tuple." ++ name) ((methodRule? "tuple" name).getD .free) args named
  match name, args with
  | "index", v :: bounds =>
    match ← placeBetween v items bounds with
    | none => raise .value "tuple.index(x): x not in tuple"
    | some p => newInt p
  | "count", [v] => newInt (← countIn v items)
  | _, _ => return .nothing

/-- The value of a method of a range. -/
def callRangeMethod (a b c : Int) (name : String) (args : List Value) (named : Named) :
    Run Value := do
  checkArguments name ("range." ++ name) ((methodRule? "range" name).getD .free) args named
  match args with
  | [v] =>
    let member? := match v.real? with
      | some (.inl n) => if inRange a b c n then some n else none
      | some (.inr x) =>
        if x.equalInt x.truncate && inRange a b c x.truncate then some x.truncate else none
      | none => none
    match name, member? with
    | "count", some _ => newInt 1
    | "count", none => newInt 0
    | _, some n => newInt ((n - a) / c)
    | _, none =>
      if v.int?.isSome then raise .value ((← shown v) ++ " is not in range")
      else raise .value "sequence.index(x): x not in sequence"
  | _ => return .nothing

/-- The value of a method of a slice. -/
def callSliceMethod (start stop step : Value) (name : String) (args : List Value) (named : Named) :
    Run Value := do
  checkArguments name ("slice." ++ name) ((methodRule? "slice" name).getD .free) args named
  match args with
  | [size] =>
    let size ← wholeArgument size
    if size < 0 then raise .value "length should not be negative"
    else
      let bounds ← boundsOf size.toNat start stop step
      newTuple [← newInt bounds.start, ← newInt bounds.stop, ← newInt bounds.step]
  | _ => return .nothing

end HtmlTemplate.Script
