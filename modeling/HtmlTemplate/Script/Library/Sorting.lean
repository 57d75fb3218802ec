import HtmlTemplate.Script.Operation

/-!
# Sorting

`arrange` puts values in the order of their keys, and `extreme` finds the greatest or least of
values. Keys are compared pair by pair, and which pairs are compared shows where some keys have no
order: short lists are sorted by insertion behind the part that is in order from the start, longer
ones by merging.
-/

namespace HtmlTemplate.Script

/-- Values with the keys that they are sorted by. -/
abbrev Keyings := List (Datum × Value)

/-- Whether the key of one value is less than that of another. -/
def keyLess (a b : Datum × Value) : Except String Bool := a.1.inOrder .lt b.1

/-- The length of the part at the start of a list that goes on as `down` says: each key less than
the one before, or none. -/
def runLength (down : Bool) : Datum × Value → Keyings → Except String Nat
  | _, [] => .ok 1
  | a, b :: rest => do
    if (← keyLess b a) == down then return (← runLength down b rest) + 1 else return 1

/-- The place of a key in the part of a sorted row from `low` to `high`, behind all that are not
greater; `fuel` bounds the number of comparisons. -/
def insertionPlace (row : Array (Datum × Value)) (pivot : Datum × Value) :
    Nat → Nat → Nat → Except String Nat
  | 0, low, _ => .ok low
  | fuel + 1, low, high =>
    if low < high then do
      let middle := low + (high - low) / 2
      match row[middle]? with
      | some e =>
        if ← keyLess pivot e then insertionPlace row pivot fuel low middle
        else insertionPlace row pivot fuel (middle + 1) high
      | none => return low
    else .ok low

/-- Inserts values one by one into a sorted list; where keys cannot be compared, the values stay
where they are and the message goes with them. -/
def insertAll (sorted : Keyings) : Keyings → Keyings × Option String
  | [] => (sorted, none)
  | pivot :: rest =>
    match insertionPlace sorted.toArray pivot (sorted.length + 1) 0 sorted.length with
    | .error text => (sorted ++ pivot :: rest, some text)
    | .ok place => insertAll (sorted.take place ++ pivot :: sorted.drop place) rest

/-- Sorts a short list. -/
def insertionSorted (items : Keyings) : Keyings × Option String :=
  match items with
  | a :: b :: rest =>
    let run : Except String (Nat × Bool) := do
      let down ← keyLess b a
      return (← runLength down a (b :: rest), down)
    match run with
    | .error text => (items, some text)
    | .ok (length, down) =>
      let start := items.take length
      insertAll (if down then start.reverse else start) (items.drop length)
  | _ => (items, none)

/-- Merges sorted lists; of equal keys those of the first list come first. -/
def mergeSorted : Nat → Keyings → Keyings → Except String Keyings
  | 0, as, bs => .ok (as ++ bs)
  | fuel + 1, a :: as, b :: bs => do
    if ← keyLess b a then return b :: (← mergeSorted fuel (a :: as) bs)
    else return a :: (← mergeSorted fuel as (b :: bs))
  | _, as, bs => .ok (as ++ bs)

/-- The length from which on lists are sorted by merging. -/
def mergeLength : Nat := 64

/-- Sorts a list of any length; `levels` bounds how often it is halved. -/
def sortedKeys : Nat → Keyings → Keyings × Option String
  | 0, items => insertionSorted items
  | levels + 1, items =>
    if items.length < mergeLength then insertionSorted items
    else
      let half := items.length / 2
      match sortedKeys levels (items.take half), sortedKeys levels (items.drop half) with
      | (as, none), (bs, none) =>
        match mergeSorted items.length as bs with
        | .ok sorted => (sorted, none)
        | .error text => (as ++ bs, some text)
      | (as, some text), (bs, _) => (as ++ bs, some text)
      | (as, none), (bs, some text) => (as ++ bs, some text)

/-- Puts values in the order of their keys, or backwards; those of equal keys stay as they are. -/
def arrange (backwards : Bool) (items : Keyings) : Keyings × Option String :=
  if backwards then
    let (sorted, text?) := sortedKeys items.length items.reverse
    (sorted.reverse, text?)
  else sortedKeys items.length items

section

variable (perform : Perform)

/-- The key of a value: what a function gives for it, or the value itself. -/
def keyValue (key? : Option Value) (v : Value) : Run Value :=
  match key? with
  | none => return v
  | some .nothing => return v
  | some f => callWith perform f [v]

/-- Values with their keys. -/
def keyed (key? : Option Value) (items : List Value) : Run Keyings := do
  let keys ← items.mapM (keyValue perform key?)
  let w ← get
  return (keys.zip items).map fun (k, v) => (k.datum w, v)

/-- Whether an argument asks for the order from the greatest to the least. -/
def isBackwards (v? : Option Value) : Run Bool := do
  match v? with
  | none => return false
  | some v =>
    match v.int? with
    | some n =>
      if -(Nat.pow 2 31 : Int) ≤ n ∧ n < (Nat.pow 2 31 : Int) then return n != 0
      else raiseOverflow "Python int too large to convert to C int"
    | none => raiseTypeOf "'" v "' object cannot be interpreted as an integer"

/-- Values in the order that arguments ask for. -/
def sortedBy (key? reverse? : Option Value) (items : List Value) : Run (List Value) := do
  let backwards ← isBackwards reverse?
  let (sorted, text?) := arrange backwards (← keyed perform key? items)
  match text? with
  | none => return sorted.map (·.2)
  | some text => raiseType text

/-- The greatest or least of the members of a value. -/
def extreme (greatest : Bool) (key? : Option Value) (v : Value) : Run (Option Value) := do
  let best? ← foldMembers perform v (none : Option (Value × Value)) fun best? member => do
    let key ← keyValue perform key? member
    match best? with
    | none => return some (key, member)
    | some (bestKey, best) =>
      if ← areInOrder (if greatest then .gt else .lt) key bestKey then return some (key, member)
      else return some (bestKey, best)
  return best?.map (·.2)

end

end HtmlTemplate.Script
