import HtmlTemplate.Script.Library.Attribute

/-!
# Methods of dictionaries and sets

The methods of values that find their members by key. A method that takes the members of other
values takes them one by one, so that those before a failure remain.
-/

namespace HtmlTemplate.Script

section

variable (perform : Perform)

/-! ### Dictionaries -/

/-- Puts named arguments into a dictionary. -/
def mergeNamed (t : Table) (named : Named) : Run Table :=
  named.foldlM (fun t n => putEntry t (.text n.1) n.2) t

/-- Fills a dictionary with the entries or pairs of a value and with named arguments. -/
def fillDict (n : Nat) (args : List Value) (named : Named) : Run Unit := do
  let done (t : Table) : Run Unit := setObject n (.dict t)
  match args with
  | [v] =>
    let _ ← mergeInto perform (← tableOf n) v done
  | _ => pure ()
  done (← mergeNamed (← tableOf n) named)

/-- The dictionary that has the members of a value as keys. -/
def dictFromKeys (args : List Value) : Run Value := do
  match args with
  | keys :: rest =>
    let v := rest.headD .nothing
    newObject (.dict (← foldMembers perform keys {} fun t key => putEntry t key v))
  | [] => return .nothing

/-- Takes the entry of a key out of a dictionary. -/
def popEntry (n : Nat) (t : Table) (key : Value) (default? : Option Value) : Run Value := do
  match ← takeEntry t key with
  | some (v, rest) =>
    setObject n (.dict rest)
    return v
  | none =>
    match default? with
    | some d => return d
    | none => throw (.error .key [key])

/-- The value of a method of a dictionary. -/
def callDictMethod (n : Nat) (t : Table) (name : String) (args : List Value) (named : Named) :
    Run Value := do
  checkArguments name ("dict." ++ name) ((methodRule? "dict" name).getD .free) args named
  match name, args with
  | "get", key :: rest => return (← entryFor t key).getD (rest.headD .nothing)
  | "items", _ => newObject (.view .items n)
  | "keys", _ => newObject (.view .keys n)
  | "values", _ => newObject (.view .values n)
  | "pop", key :: rest => popEntry n t key rest.head?
  | "popitem", _ =>
    match t.entries.getLast? with
    | none => raise .key "popitem(): dictionary is empty"
    | some e =>
      setObject n (.dict { t with entries := t.entries.dropLast })
      newTuple [e.key, e.value]
  | "setdefault", key :: rest =>
    match ← entryFor t key with
    | some v => return v
    | none =>
      let v := rest.headD .nothing
      setObject n (.dict (← putEntry t key v))
      return v
  | "fromkeys", args => dictFromKeys perform args
  | "update", args => do
    checkArguments name name (.counted 0 (some 1)) args []
    fillDict perform n args named
    return .nothing
  | "clear", _ => do
    setObject n (.dict { t with entries := [] })
    return .nothing
  | "copy", _ => newObject (.dict t)
  | _, _ => return .nothing

/-! ### Sets -/

/-- What a method makes of a set and the members of another value, and whether it changes the set
itself. -/
def setMethodOperator : String → BinaryOp × Bool
  | "union" => (.bitOr, false)
  | "update" => (.bitOr, true)
  | "intersection" => (.bitAnd, false)
  | "intersection_update" => (.bitAnd, true)
  | "difference" => (.sub, false)
  | "difference_update" => (.sub, true)
  | "symmetric_difference_update" => (.bitXor, true)
  | _ => (.bitXor, false)

/-- The value of a method that combines a set with other values. -/
def combineSets (n : Nat) (frozen : Bool) (items : List Value) (name : String)
    (args : List Value) : Run Value := do
  let (op, changes) := setMethodOperator name
  let done (items : List Value) : Run Unit :=
    if changes then setObject n (.set frozen items) else return ()
  let result ← args.foldlM (fun items other => do
    let next ← match op with
      | .bitOr => foldMembers perform other items fun items member => do
        let items ← addMember items member
        done items
        return items
      | op => do setOperation op items (← distinctMembers perform other)
    if op != .bitAnd then done next
    return next) items
  done result
  if changes then return .nothing else newSet frozen result

/-- Compares a set with the members of another value. -/
def compareSets (items : List Value) (name : String) (other : Value) : Run Value := do
  let others ← distinctMembers perform other
  let shared ← keptMembers true items others
  return .bool (match name with
    | "isdisjoint" => shared.isEmpty
    | "issubset" => shared.length == items.length
    | _ => shared.length == others.length)

/-- The value of a method of a set. -/
def callSetMethod (n : Nat) (frozen : Bool) (items : List Value) (name : String)
    (args : List Value) (named : Named) : Run Value := do
  let type := if frozen then "frozenset" else "set"
  let become (items : List Value) : Run Value := do
    setObject n (.set frozen items)
    return .nothing
  let without (v : Value) : Run (Option (List Value)) := do
    checkSought v
    return (← indexIn v items).map items.eraseIdx
  checkArguments name (type ++ "." ++ name) ((methodRule? type name).getD .free) args named
  match name, args with
  | "add", [v] => do become (← addMember items v)
  | "discard", [v] => do become ((← without v).getD items)
  | "remove", [v] =>
    match ← without v with
    | some rest => become rest
    | none => throw (.error .key [v])
  | "pop", _ =>
    match listed items with
    | [] => raise .key "pop from an empty set"
    | v :: rest => do
      let _ ← become rest
      return v
  | "clear", _ => become []
  | "copy", _ => if frozen then return .object n else newSet false items
  | "isdisjoint", [other] => compareSets perform items name other
  | "issubset", [other] => compareSets perform items name other
  | "issuperset", [other] => compareSets perform items name other
  | _, args => combineSets perform n frozen items name args

/-- The value of a method of a view of a dictionary. -/
def callViewMethod (v : Value) (name : String) (args : List Value) (named : Named) :
    Run Value := do
  checkArguments name ((← typeOf v) ++ "." ++ name) .one args named
  match args with
  | [other] => compareSets perform (← distinctMembers perform v) name other
  | _ => return .nothing

end

end HtmlTemplate.Script
