import HtmlTemplate.Script.Job
import HtmlTemplate.Script.Layout.Percent

/-!
# Operations

`binaryOperation` applies an operator to two values, `augmented` changes the first of them where it
is when it is a value that can change, `isMember` looks for a value in another, and `holds` decides
comparisons.
-/

namespace HtmlTemplate.Script

section

variable (perform : Perform)

/-! ### Sets and dictionaries -/

/-- The members of a value that operators take for a set, and whether the set is frozen. -/
def setOf? (v : Value) : Run (Option (Bool × List Value)) := do
  match v with
  | .object n =>
    match ← objectAt n with
    | .set frozen items => return some (frozen, listed items)
    | _ => return none
  | _ => return none

/-- Whether a value is a view that operators take for a set. -/
def isSetView (v : Value) : Run Bool := do
  match v with
  | .object n =>
    match ← objectAt n with
    | .view .keys _ => return true
    | .view .items _ => return true
    | _ => return false
  | _ => return false

/-- Whether an operator goes with sets. -/
def isSetOperator : BinaryOp → Bool
  | .bitOr => true
  | .bitXor => true
  | .bitAnd => true
  | .sub => true
  | _ => false

/-- The different members of a value. -/
def distinctMembers (v : Value) : Run (List Value) := foldMembers perform v [] addMember

/-- The dictionary that a value is. -/
def dictOf? (v : Value) : Run (Option Table) := do
  match v with
  | .object n =>
    match ← objectAt n with
    | .dict t => return some t
    | _ => return none
  | _ => return none

/-- Puts the pairs that a value consists of into a dictionary. -/
def putPairs (t : Table) (source : Value) (done : Table → Run Unit) : Run Table := do
  let (t, _) ← foldMembers perform source (t, (0 : Nat)) fun (t, i) pair => do
    let isRow ← match pair with
      | .object n => do
        match ← objectAt n with
        | .closure _ => pure false
        | .helper _ => pure false
        | .record _ => pure false
        | .error _ => pure false
        | _ => pure true
      | .str .. => pure true
      | .bytes .. => pure true
      | .tuple .. => pure true
      | .range .. => pure true
      | _ => pure false
    if !isRow then
      raiseType ("cannot convert dictionary update sequence element #" ++ toString i ++
        " to a sequence")
    else
      match ← allMembers perform pair with
      | [k, v] =>
        let t ← putEntry t k v
        done t
        return (t, i + 1)
      | other =>
        raise .value ("dictionary update sequence element #" ++ toString i ++ " has length " ++
          toString other.length ++ "; 2 is required")
  return t

/-- Puts the entries of a dictionary, or the pairs that a value consists of, into a dictionary;
`done` is told each state on the way. Props have no method that lists their keys: what they give for
its name is called all the same. -/
def mergeInto (t : Table) (source : Value) (done : Table → Run Unit) : Run Table := do
  let pairs : Run Table := putPairs perform t source done
  match source with
  | .object n =>
    match ← objectAt n with
    | .dict more => do
      let t ← putEntries t more.pairs
      done t
      return t
    | .props p => do
      putPairs perform t (← callWith perform (← readProp perform n p "keys") []) done
    | _ => pairs
  | _ => pairs

/-! ### Operators -/

/-- The value of an operation with two operands; `inPlace` tells that an assignment applies it. -/
def operation (inPlace : Bool) (op : BinaryOp) (a b : Value) : Run Value := do
  let unsupported : Run Value := raiseUnsupported (operationSign op inPlace) a b
  match numberOperation op a b with
  | some result => result
  | none =>
    match op, a with
    | .modulo, .str _ s => percentText s b
    | _, _ =>
      match op with
      | .add => if ← canJoin a then joined a b else unsupported
      | .mul =>
        match ← multiplied? a with
        | some multiple => multiply multiple b
        | none =>
          if inPlace && (← isCollection a) then unsupported
          else
            match ← multiplied? b with
            | some multiple => multiply multiple a
            | none => unsupported
      | _ =>
        if !isSetOperator op then unsupported
        else
          match ← setOf? a, ← setOf? b with
          | some (frozen, as), some (_, bs) => newSet frozen (← setOperation op as bs)
          | _, _ =>
            if (← isSetView a) || (← isSetView b) then
              let as ← distinctMembers perform a
              newSet false (← setOperation op as (← distinctMembers perform b))
            else
              match op, ← dictOf? a, ← dictOf? b with
              | .bitOr, some s, some t => newObject (.dict (← putEntries s t.pairs))
              | _, _, _ => unsupported

/-- The value of an operation with two operands. -/
def binaryOperation (op : BinaryOp) (a b : Value) : Run Value := operation perform false op a b

/-- Adds the members of a value at the end of a list. -/
def extendList (list : Nat) (v : Value) : Run Unit := do
  match v with
  | .tuple _ items => setObject list (.list ((← listItems list).getD [] ++ items))
  | _ =>
    let row? ← match v with
      | .object n => listItems n
      | _ => pure none
    match row? with
    | some items => setObject list (.list ((← listItems list).getD [] ++ items))
    | none =>
      foldMembers perform v () fun _ member => do
        setObject list (.list ((← listItems list).getD [] ++ [member]))

/-- Applies an operator to a value and an operand. A list, a set or a dictionary is changed where it
is. -/
def augmented (op : BinaryOp) (v operand : Value) : Run Value := do
  let plain : Run Value := operation perform true op v operand
  match v with
  | .object n =>
    match ← objectAt n, op with
    | .list _, .add => do
      extendList perform n operand
      return v
    | .list items, .mul => do
      match operand.int? with
      | some times => do
        checkRepeat items.length times none
        setObject n (.list (repeated times items))
        return v
      | none => raiseTypeOf "can't multiply sequence by non-int of type '" operand "'"
    | .set false items, _ =>
      match isSetOperator op, ← setOf? operand with
      | true, some (_, others) => do
        setObject n (.set false (← setOperation op items others))
        return v
      | _, _ => plain
    | .dict t, .bitOr => do
      let _ ← mergeInto perform t operand fun t => setObject n (.dict t)
      return v
    | _, _ => plain
  | _ => plain

/-! ### Membership -/

/-- Whether a text is part of another. -/
def isInfixOf {α : Type} [BEq α] (part whole : List α) : Bool :=
  match whole with
  | [] => part.isEmpty
  | _ :: rest => part.isPrefixOf whole || isInfixOf part rest

/-- Whether a whole number is a member of a range. -/
def inRange (a b c n : Int) : Bool :=
  (if 0 < c then a ≤ n && n < b else b < n && n ≤ a) && (n - a) % c == 0

/-- Whether a value is among the bytes of a row. -/
def isByteMember (v : Value) (row : List UInt8) : Run Bool := do
  match v with
  | .bytes _ part => return isInfixOf part row
  | _ =>
    match v.int? with
    | some n =>
      if 0 ≤ n ∧ n < 256 then return row.contains (UInt8.ofNat n.toNat)
      else raise .value "byte must be in range(0, 256)"
    | none => raiseTypeOf "a bytes-like object is required, not '" v "'"

/-- Whether one value is a member of another. -/
def isMember (v container : Value) : Run Bool := do
  let sought : Run Bool :=
    throughMembers perform container () (fun _ member => do
      if ← alikeTo member v then return .inr true else return .inl ()) (fun _ => return false)
  match container with
  | .str _ whole =>
    match v with
    | .str _ part => return isInfixOf part.toList whole.toList
    | _ => raiseTypeOf "'in <string>' requires string as left operand, not " v ""
  | .bytes _ row => isByteMember v row
  | .tuple _ items => isAmong v items
  | .range _ a b c =>
    match v.real? with
    | some (.inl n) => return inRange a b c n
    | some (.inr x) => return x.equalInt x.truncate && inRange a b c x.truncate
    | none => return false
  | .object n =>
    match ← objectAt n with
    | .list items => isAmong v items
    | .dict table => return (← entryFor table v).isSome
    | .set _ items => do
      checkSought v
      isAmong v items
    | .view .keys d => return (← entryFor (← tableOf d) v).isSome
    | .view .items d =>
      match v with
      | .tuple _ [k, x] =>
        match ← entryFor (← tableOf d) k with
        | some y => alikeTo x y
        | none => return false
      | _ => return false
    | .view .values _ => sought
    | .iteration .. => sought
    | .props p =>
      match v with
      | .str _ key => return hasProp p key
      | _ => return false
    | _ => raiseTypeOf "argument of type '" container "' is not iterable"
  | _ => raiseTypeOf "argument of type '" container "' is not iterable"

/-- Whether a comparison holds. -/
def holds (op : Comparison) (a b : Value) : Run Bool := do
  match op with
  | .eq => equalTo a b
  | .ne => return !(← equalTo a b)
  | .order o => areInOrder o a b
  | .isSame => return a.same b
  | .isNotSame => return !a.same b
  | .isIn => isMember perform a b
  | .isNotIn => return !(← isMember perform a b)

end

end HtmlTemplate.Script
