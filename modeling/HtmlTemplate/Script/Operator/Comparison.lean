import HtmlTemplate.Script.Operator.Number

/-!
# Comparison

Equality and order of values, and what rests on them: which values can be keys, the search in lists,
and the entries of dictionaries.
-/

namespace HtmlTemplate.Script

open HtmlTemplate.Number HtmlTemplate.Text

/-! ### Equality -/

/-- Equality of values where each is equal to itself. -/
def Value.alike (w : World) (a b : Value) : Bool :=
  a.same b || match a, b with
    | .str _ s, .str _ t => s == t
    | .str .., .int .. => false
    | .int .., .str .. => false
    | .int _ m, .int _ n => m == n
    | .builtin _, .builtin _ => false
    | _, _ => (a.datum w).alike (b.datum w)

/-- Equality of values. -/
def equalTo (a b : Value) : Run Bool := return (← datumOf a).equal (← datumOf b)

/-- Equality of values where each is equal to itself. -/
def alikeTo (a b : Value) : Run Bool := return a.alike (← get) b

/-- Whether values are in an order. -/
def areInOrder (o : Order) (a b : Value) : Run Bool := do
  match (← datumOf a).inOrder o (← datumOf b) with
  | .ok r => return r
  | .error text => raiseType text

/-- Whether a value is among others. -/
def isAmong (v : Value) (items : List Value) : Run Bool := do
  let w ← get
  return items.any fun e => e.alike w v

/-- The place of the first value equal to another. -/
def indexIn (v : Value) (items : List Value) : Run (Option Nat) := do
  let w ← get
  return items.findIdx? fun e => e.alike w v

/-- The number of values equal to another. -/
def countIn (v : Value) (items : List Value) : Run Nat := do
  let w ← get
  return items.countP fun e => e.alike w v

/-! ### Keys -/

mutual

/-- The type of the first part of a value that can change, so that the value is no key. -/
def changing? : Datum → Option String
  | .list _ => some "list"
  | .dict _ => some "dict"
  | .set frozen _ => if frozen then none else some "set"
  | .slice .. => some "slice"
  | .record _ => some "types.SimpleNamespace"
  | .view .keys .. => some "dict_keys"
  | .view .items .. => some "dict_items"
  | .again _ => some "list"
  | .tuple items => changingAmong? items
  | _ => none

/-- The type of the first part that can change among the values of a list. -/
def changingAmong? : List Datum → Option String
  | [] => none
  | d :: ds => (changing? d).orElse fun _ => changingAmong? ds

end

/-- Refuses a value that cannot be a key. -/
def checkKey (v : Value) : Run Unit := do
  match v with
  | .str .. => return ()
  | .int .. => return ()
  | v =>
    match changing? (← datumOf v) with
    | some type => raiseType ("unhashable type: '" ++ type ++ "'")
    | none => return ()

/-! ### Dictionaries -/

/-- The entry of a table for a key. -/
def Table.find? (w : World) (t : Table) (key : Value) : Option Entry :=
  t.entries.find? fun e => e.key.alike w key

/-- The value that a table has for a key. -/
def entryFor (t : Table) (key : Value) : Run (Option Value) := do
  checkKey key
  return (t.find? (← get) key).map (·.value)

/-- Puts a value under a key of a table: in the place of an equal key, or at the end. -/
def putEntry (t : Table) (key value : Value) : Run Table := do
  checkKey key
  match t.find? (← get) key with
  | some found =>
    return { t with
      entries := t.entries.map fun e =>
        if e.number = found.number then { e with value := value } else e }
  | none => return t.push key value

/-- Puts keys and values into a table. -/
def putEntries (t : Table) (pairs : List (Value × Value)) : Run Table :=
  pairs.foldlM (fun t e => putEntry t e.1 e.2) t

/-- Takes the entry for a key out of a table. -/
def takeEntry (t : Table) (key : Value) : Run (Option (Value × Table)) := do
  checkKey key
  return (t.find? (← get) key).map fun found =>
    (found.value, { t with entries := t.entries.filter fun e => e.number != found.number })

/-! ### Sets -/

/-- Adds a value to others unless it is among them. -/
def addMember (items : List Value) (v : Value) : Run (List Value) := do
  checkKey v
  if ← isAmong v items then return items else return items ++ [v]

/-- The different ones among values. -/
def distinct (items : List Value) : Run (List Value) := items.foldlM addMember []

/-- Refuses a value that cannot be sought in a set; sets themselves can be. -/
def checkSought (v : Value) : Run Unit := do
  match v with
  | .object n =>
    match ← objectAt n with
    | .set .. => return ()
    | _ => checkKey v
  | _ => checkKey v

/-- The values of the first list that are, or are not, in the second. -/
def keptMembers (present : Bool) (as bs : List Value) : Run (List Value) := do
  let w ← get
  return as.filter fun a => (bs.any fun b => b.alike w a) == present

/-- An operation on sets. -/
def setOperation (op : BinaryOp) (as bs : List Value) : Run (List Value) := do
  match op with
  | .bitOr => return as ++ (← keptMembers false bs as)
  | .bitAnd => keptMembers true as bs
  | .sub => keptMembers false as bs
  | _ => return (← keptMembers false as bs) ++ (← keptMembers false bs as)

end HtmlTemplate.Script
