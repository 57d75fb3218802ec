import HtmlTemplate.Script.Operator.Comparison

/-!
# Sequences

Joining and repeating texts, tuples and lists, and access to the members of values: `itemOf` reads a
member, or the members that a slice picks, and `putItem` and `removeItem` change a list or a
dictionary.
-/

namespace HtmlTemplate.Script

open HtmlTemplate.Number HtmlTemplate.Text

/-! ### Joining and repeating -/

/-- A list repeated so many times, none for negative numbers. -/
def repeated {α : Type} (times : Int) (items : List α) : List α :=
  if items.isEmpty then [] else (List.replicate times.toNat items).flatten

/-- Whether a number is small enough for an index. -/
def isIndex (n : Int) : Bool := -(Nat.pow 2 63 : Int) ≤ n && n < (Nat.pow 2 63 : Int)

/-- The error that a number is too large for an index. -/
def indexMessage : String := "cannot fit 'int' into an index-sized integer"

/-- The most members that there is room for. -/
def roomLimit : Nat := Nat.pow 2 34

/-- Refuses to repeat so many members so many times. -/
def checkRepeat (size : Nat) (times : Int) (tooLong? : Option String) : Run Unit := do
  if !isIndex times then raiseOverflow indexMessage
  else if size * times.toNat < roomLimit then return ()
  else
    match tooLong? with
    | some text =>
      if size * times.toNat < Nat.pow 2 63 then throw (.error .memory []) else raiseOverflow text
    | none => throw (.error .memory [])

/-- A value repeated so many times, when it is one that can be repeated. -/
def multiplied? (v : Value) : Run (Option (Int → Run Value)) := do
  match v with
  | .str _ s => return some fun times => do
    checkRepeat s.length times (some "repeated string is too long")
    if times = 1 ∨ s.isEmpty then return v else newStr (String.join (repeated times [s]))
  | .bytes _ b => return some fun times => do
    checkRepeat b.length times (some "repeated bytes are too long")
    if times = 1 then return v else newBytes (repeated times b)
  | .tuple _ items => return some fun times => do
    checkRepeat items.length times none
    if times = 1 then return v else newTuple (repeated times items)
  | .object n =>
    match ← listItems n with
    | some items => return some fun times => do
      checkRepeat items.length times none
      newList (repeated times items)
    | none => return none
  | _ => return none

/-- Repeats a value as often as another one says. -/
def multiply (multiple : Int → Run Value) (times : Value) : Run Value := do
  match times.int? with
  | some n => multiple n
  | none => raiseTypeOf "can't multiply sequence by non-int of type '" times "'"

/-- A sequence with another one behind it; the first is one that can be joined. -/
def joined (a b : Value) : Run Value := do
  let refuse (type : String) : Run Value :=
    raiseTypeOf ("can only concatenate " ++ type ++ " (not \"") b ("\") to " ++ type)
  match a, b with
  | .str _ s, .str _ t =>
    if t.isEmpty then return a else if s.isEmpty then return b else newStr (s ++ t)
  | .bytes _ s, .bytes _ t =>
    if t.isEmpty then return a else if s.isEmpty then return b else newBytes (s ++ t)
  | .tuple _ s, .tuple _ t =>
    if t.isEmpty then return a else if s.isEmpty then return b else newTuple (s ++ t)
  | .object m, .object n =>
    match ← listItems m, ← listItems n with
    | some s, some t => newList (s ++ t)
    | _, _ => refuse "list"
  | .str .., _ => refuse "str"
  | .bytes .., _ => raiseTypeOf "can't concat " b " to bytes"
  | .tuple .., _ => refuse "tuple"
  | _, _ => refuse "list"

/-- Whether a value can be joined with another one behind it. -/
def canJoin (v : Value) : Run Bool := do
  match v with
  | .str .. => return true
  | .bytes .. => return true
  | .tuple .. => return true
  | .object n => return (← listItems n).isSome
  | _ => return false

/-! ### Places -/

/-- The members of a range. -/
def rangeMembers (start stop step : Int) : List Int :=
  (List.range (Datum.rangeLength start stop step)).map fun (i : Nat) => start + i * step

/-- The place in a list of a given size that an index means; negative ones count from the end. -/
def place? (size : Nat) (index : Int) : Option Nat :=
  let i := if index < 0 then index + size else index
  if 0 ≤ i ∧ i < size then some i.toNat else none

/-- The bounds of a slice: the first place and the one that ends it. -/
structure Bounds where
  start : Int
  stop : Int
  step : Int

/-- The place that a bound of a slice means in a list of a given size. -/
def sliceBound (size : Nat) (step : Int) (bound : Int) : Int :=
  let low : Int := if step < 0 then -1 else 0
  let high : Int := if step < 0 then (size : Int) - 1 else size
  let b := if bound < 0 then bound + size else bound
  max low (min high b)

/-- A number that a slice has. -/
def sliceNumber (v : Value) : Run (Option Int) := do
  match v with
  | .nothing => return none
  | v =>
    match v.int? with
    | some n => return some n
    | none => raiseType "slice indices must be integers or None or have an __index__ method"

/-- The bounds of a slice in a list of a given size. -/
def boundsOf (size : Nat) (start stop step : Value) : Run Bounds := do
  let step := (← sliceNumber step).getD 1
  if step = 0 then raise .value "slice step cannot be zero"
  else
    let start? ← sliceNumber start
    let stop? ← sliceNumber stop
    return {
      start := (start?.map (sliceBound size step)).getD (if step < 0 then (size : Int) - 1 else 0)
      stop := (stop?.map (sliceBound size step)).getD (if step < 0 then -1 else size)
      step := step }

/-- The places that a slice takes. -/
def Bounds.places (b : Bounds) : List Nat :=
  (rangeMembers b.start b.stop b.step).map Int.toNat

/-- The members of a list that a slice takes. -/
def Bounds.pick {α : Type} (b : Bounds) (items : List α) : List α :=
  if b.step = 1 then (items.drop b.start.toNat).take (b.stop - b.start).toNat
  else
    let row := items.toArray
    b.places.filterMap fun i => row[i]?

/-- Whether a slice takes all members as they are. -/
def Bounds.takesAll (b : Bounds) (size : Nat) : Bool :=
  b.step == 1 && b.start == 0 && b.stop == size

/-- The place in a list that a value means as an index. `types` is how indices are called in
messages and `what` the place. -/
def placeOf (size : Nat) (index : Value) (types what : String) : Run Nat := do
  match index.int? with
  | none => raiseTypeOf (types ++ ", not ") index ""
  | some i =>
    if !isIndex i then raise .index indexMessage
    match place? size i with
    | some p => return p
    | none => raise .index (what ++ " out of range")

/-- The member at an index. -/
def memberAt {α : Type} (items : List α) (index : Value) (types what : String) : Run α := do
  match items[← placeOf items.length index types what]? with
  | some v => return v
  | none => raise .index (what ++ " out of range")

/-! ### Reading members -/

/-- The part of a range that a slice takes. -/
def rangePart (a b c : Int) (start stop step : Value) : Run Value := do
  let bounds ← boundsOf (Datum.rangeLength a b c) start stop step
  newRange (a + bounds.start * c) (a + bounds.stop * c) (bounds.step * c)

/-- The member of a value at an index or under a key, or the part that a slice takes. -/
def itemOf (v index : Value) : Run Value := do
  match v, index with
  | .str _ s, .slice _ a b c =>
    let cs := s.toList
    let bounds ← boundsOf cs.length a b c
    if bounds.takesAll cs.length then return v else newStr (String.ofList (bounds.pick cs))
  | .str _ s, _ =>
    match index.int? with
    | none => raiseTypeOf "string indices must be integers, not '" index "'"
    | some _ => newStr (String.singleton (← memberAt s.toList index "" "string index"))
  | .bytes _ b, .slice _ x y z =>
    let bounds ← boundsOf b.length x y z
    if bounds.takesAll b.length then return v else newBytes (bounds.pick b)
  | .bytes _ b, _ =>
    newInt (← memberAt b index "byte indices must be integers or slices" "index").toNat
  | .tuple _ items, .slice _ a b c =>
    let bounds ← boundsOf items.length a b c
    if bounds.takesAll items.length then return v else newTuple (bounds.pick items)
  | .tuple _ items, _ =>
    memberAt items index "tuple indices must be integers or slices" "tuple index"
  | .range _ a b c, .slice _ x y z => rangePart a b c x y z
  | .range _ a b c, _ =>
    match index.int? with
    | none => raiseTypeOf "range indices must be integers or slices, not " index ""
    | some i =>
      match place? (Datum.rangeLength a b c) i with
      | some p => newInt (a + p * c)
      | none => raise .index "range object index out of range"
  | .object n, _ =>
    match ← objectAt n, index with
    | .list items, .slice _ a b c =>
      let bounds ← boundsOf items.length a b c
      newList (bounds.pick items)
    | .list items, _ => memberAt items index "list indices must be integers or slices" "list index"
    | .dict table, _ =>
      match ← entryFor table index with
      | some v => return v
      | none => throw (.error .key [index])
    | _, _ => raiseTypeOf "'" v "' object is not subscriptable"
  | .builtin b, _ =>
    if b.isType then raiseType ("type '" ++ b.name ++ "' is not subscriptable")
    else raiseTypeOf "'" v "' object is not subscriptable"
  | _, _ => raiseTypeOf "'" v "' object is not subscriptable"

/-! ### Changing members -/

/-- A list with the members that a slice takes replaced by others. -/
def withSlice (items : List Value) (bounds : Bounds) (more : List Value) : Run (List Value) := do
  if bounds.step = 1 then
    let start := bounds.start.toNat
    let stop := max start bounds.stop.toNat
    return items.take start ++ more ++ items.drop stop
  else
    let places := bounds.places
    if places.length ≠ more.length then
      raise .value ("attempt to assign sequence of size " ++ toString more.length ++
        " to extended slice of size " ++ toString places.length)
    else return (places.zip more).foldl (fun items (p, v) => items.set p v) items

/-- A list without the members that a slice takes. -/
def withoutSlice (items : List Value) (bounds : Bounds) : List Value :=
  let places := bounds.places
  (items.zipIdx.filter fun (_, i) => !places.contains i).map (·.1)

/-- How the indices of a list are called in messages. -/
def listIndexTypes : String := "list indices must be integers or slices"

/-- Puts a value at an index or under a key. -/
def putItem (v index value : Value) : Run Unit := do
  let refuse : Run Unit := raiseTypeOf "'" v "' object does not support item assignment"
  match v with
  | .object n =>
    match ← objectAt n with
    | .list items => do
      let p ← placeOf items.length index listIndexTypes "list assignment index"
      setObject n (.list (items.set p value))
    | .dict table => setObject n (.dict (← putEntry table index value))
    | _ => refuse
  | _ => refuse

/-- Whether a value is a collection of members whose number is known. -/
def isCollection (v : Value) : Run Bool := do
  match v with
  | .str .. => return true
  | .bytes .. => return true
  | .tuple .. => return true
  | .range .. => return true
  | .object n =>
    match ← objectAt n with
    | .list _ => return true
    | .dict _ => return true
    | .set .. => return true
    | .view .. => return true
    | _ => return false
  | _ => return false

/-- Removes the members at an index, in a slice or under a key. -/
def removeItem (v index : Value) : Run Unit := do
  let isNumbered := (← isCollection v) && index.int?.isSome
  let refuse : Run Unit := raiseTypeOf "'" v (if isNumbered
    then "' object doesn't support item deletion" else "' object does not support item deletion")
  match v with
  | .object n =>
    match ← objectAt n, index with
    | .list items, .slice _ a b c =>
      setObject n (.list (withoutSlice items (← boundsOf items.length a b c)))
    | .list items, _ => do
      let p ← placeOf items.length index listIndexTypes "list assignment index"
      setObject n (.list (items.eraseIdx p))
    | .dict table, _ =>
      match ← takeEntry table index with
      | some (_, table) => setObject n (.dict table)
      | none => throw (.error .key [index])
    | _, _ => refuse
  | _ => refuse

end HtmlTemplate.Script
