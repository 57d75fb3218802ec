import HtmlTemplate.Script.Operator.Sequence

/-!
# Jobs

A `Job` is a piece of work that a running program asks for: the value of an expression, the effect
of statements, a call, the next member of an iteration, or the value of a whole program text. The
functions here and in the library do their part with the help of a `Perform` that does such jobs.
The members of values are got one at a time, so that work on one of them is done before the next one
is asked for.
-/

namespace HtmlTemplate.Script

open HtmlTemplate.Text

/-- How statements end. -/
inductive Flow
  | normal
  /-- Out of the loop. -/
  | stopped
  /-- On to the next round of the loop. -/
  | skipped
  /-- Out of the function, with a value. -/
  | gave (v : Value)

/-- Pieces of work, by what they give. -/
inductive Job : Type → Type
  | eval (env : Env) (e : Expr) : Job Value
  | run (env : Env) (block : List Statement) : Job Flow
  | call (f : Value) (args : List Value) (named : List (String × Value)) : Job Value
  | next (iteration : Nat) : Job (Option Value)
  | evaluate (source : String) (scope : Scope Value) : Job Value

/-- What does jobs. -/
abbrev Perform := (α : Type) → Job α → Run α

/-- The most rounds of a single loop. -/
def roundLimit : Nat := 10000000

/-- Does rounds until one of them gives a result; `rounds` bounds their number. -/
def untilSome {α σ : Type} (round : σ → Run (Sum σ α)) : Nat → σ → Run α
  | 0, _ => throw .exhausted
  | rounds + 1, s => do
    match ← round s with
    | .inl s' => untilSome round rounds s'
    | .inr a => return a

/-- Errors that give way to a default when they are of a kind. -/
def orElseOn {α : Type} (kind : ErrorKind) (x y : Run α) : Run α :=
  tryCatch x fun r => match r with
    | .error k _ => if k = kind then y else throw r
    | _ => throw r

/-! ### Iterations -/

/-- An iteration over a view of a dictionary. -/
def iterateView (view : DictView) (reverse : Bool) (dict : Nat) : Run Value := do
  let size := (← tableOf dict).entries.length
  let kind := match view with
    | .keys => "keyiterator"
    | .values => "valueiterator"
    | .items => "itemiterator"
  newIteration ("dict_" ++ (if reverse then "reverse" else "") ++ kind)
    (.entries view reverse dict size size none)

/-- An iteration over a value. -/
def iterate (v : Value) : Run Value := do
  let refuse : Run Value := raiseTypeOf "'" v "' object is not iterable"
  match v with
  | .str _ s => newIteration "str_iterator" (.characters s.toList)
  | .bytes _ b =>
    newIteration "bytes_iterator" (.members (← b.mapM fun x => newInt x.toNat))
  | .tuple _ items => newIteration "tuple_iterator" (.members items)
  | .range _ a b c => newIteration "range_iterator" (.stepping a c (Datum.rangeLength a b c))
  | .object n =>
    match ← objectAt n with
    | .list _ => newIteration "list_iterator" (.listed n 0)
    | .dict _ => iterateView .keys false n
    | .set _ items => newIteration "set_iterator" (.elements n items.length (listed items))
    | .view view d => iterateView view false d
    | .iteration .. => return v
    | .props _ => newIteration "iterator" (.indexed v 0)
    | _ => refuse
  | _ => refuse

/-- A backward iteration over a value. -/
def iterateBackwards (v : Value) : Run Value := do
  match v with
  | .str _ s => newIteration "reversed" (.characters s.toList.reverse)
  | .bytes _ b =>
    newIteration "reversed" (.members (← b.reverse.mapM fun x => newInt x.toNat))
  | .tuple _ items => newIteration "reversed" (.members items.reverse)
  | .range _ a b c =>
    let size := Datum.rangeLength a b c
    newIteration "range_iterator" (.stepping (a + ((size : Int) - 1) * c) (-c) size)
  | .object n =>
    match ← objectAt n with
    | .list items => newIteration "list_reverseiterator" (.backwards n items.length)
    | .dict _ => iterateView .keys true n
    | .view view d => iterateView view true d
    | .props _ => raiseTypeOf "object of type '" v "' has no len()"
    | _ => raiseTypeOf "'" v "' object is not reversible"
  | _ => raiseTypeOf "'" v "' object is not reversible"

section

variable (perform : Perform)

/-- The next member of an iteration given as a value. An error that says that there is nothing more
ends the iteration. -/
def nextOf (v : Value) : Run (Option Value) := do
  match v with
  | .object n => orElseOn .ended (perform _ (.next n)) (return none)
  | _ => raiseTypeOf "'" v "' object is not an iterator"

/-- Goes through the members of a value one by one until one of them gives a result. -/
def throughMembers {α σ : Type} (v : Value) (s : σ) (round : σ → Value → Run (Sum σ α))
    (finish : σ → Run α) : Run α := do
  let iteration ← iterate v
  untilSome (fun s => do
    match ← nextOf perform iteration with
    | some member => round s member
    | none => return .inr (← finish s)) roundLimit s

/-- Goes through all members of a value. -/
def foldMembers {σ : Type} (v : Value) (s : σ) (round : σ → Value → Run σ) : Run σ :=
  throughMembers perform v s (fun s member => do return .inl (← round s member)) pure

/-- All members of a value. -/
def allMembers (v : Value) : Run (List Value) := do
  match v with
  | .tuple _ items => return items
  | .object n =>
    match ← listItems n with
    | some items => return items
    | none => return (← foldMembers perform v [] fun found member => return member :: found).reverse
  | _ => return (← foldMembers perform v [] fun found member => return member :: found).reverse

/-- All members of a value, where one without members is refused with a message. -/
def allMembersOr (v : Value) (refusal : Run Unit) : Run (List Value) := do
  let iterates ← tryCatch (do
    let _ ← iterate v
    return true) fun _ => return false
  unless iterates do refusal
  allMembers perform v

/-- The next members of several iterations, unless one of them has none left. -/
def nextOfAll : List Value → Run (Option (List Value))
  | [] => return some []
  | v :: vs => do
    match ← nextOf perform v with
    | none => return none
    | some a => return (← nextOfAll vs).map (a :: ·)

/-- The next members of iterations that have equally many. -/
def nextOfEqual (inners : List Value) : Run (Option (List Value)) := do
  let nexts (vs : List Value) : Run (List (Option Value)) := vs.mapM (nextOf perform)
  match inners with
  | [] => return some []
  | first :: rest =>
    match ← nextOf perform first with
    | some v =>
      let found ← rest.zipIdx.foldlM (fun found (inner, i) => do
        match ← nextOf perform inner with
        | some v => return v :: found
        | none =>
          raise .value ("zip() argument " ++ toString (i + 2) ++ " is shorter than argument" ++
            (if i = 0 then " 1" else "s 1-" ++ toString (i + 1)))) [v]
      return some found.reverse
    | none =>
      match (← nexts rest).findIdx? (·.isSome) with
      | none => return none
      | some i =>
        raise .value ("zip() argument " ++ toString (i + 2) ++ " is longer than argument" ++
          (if i = 0 then " 1" else "s 1-" ++ toString (i + 1)))

/-- Calls a function with values. -/
def callWith (f : Value) (args : List Value) : Run Value := perform _ (.call f args [])

/-! ### Reading props -/

/-- Changes the state of props. -/
def setProps (number : Nat) (p : Props) : Run Unit := setObject number (.props p)

/-- Splits the sign that asks for evaluation off the key of a prop. -/
def propKey (key : String) : Bool × String :=
  match key.toList with
  | '$' :: cs => (true, String.ofList cs)
  | _ => (false, key)

/-- Raises the error that props are read too late. -/
def raiseClosed {α : Type} (key : String) : Run α :=
  throw (.diagnostic {
    problem := .runtime ("props[" ++ key ++ "] read after the server scripts finished") none []
    hint? := some "Copy props into variables inside <script server>" })

/-- Reads a prop: the value that was read before, or else the attribute, which is used up, as it is
or as an expression in the scope of the use. -/
def readProp (number : Nat) (p : Props) (key : String) : Run Value := do
  if p.closed then raiseClosed (quote key)
  else match p.resolved.get? key with
    | some v => return v
    | none =>
      let (evaluates, attribute_) := propKey key
      match p.attrs.get? attribute_ with
      | none => return .nothing
      | some raw =>
        setProps number { p with attrs := p.attrs.erase attribute_ }
        let v ← if evaluates then perform _ (.evaluate raw (p.scope.child [])) else newStr raw
        match ← objectAt number with
        | .props p => setProps number { p with resolved := p.resolved.put key v }
        | _ => pure ()
        return v

/-- Reads a prop by a value, which has to be a text. -/
def readPropAt (number : Nat) (p : Props) (key : Value) : Run Value := do
  match key with
  | .str _ s => readProp perform number p s
  | _ =>
    if p.closed then raiseClosed (← shown key)
    else
      checkKey key
      match key with
      | .bytes .. => raiseType "startswith first arg must be bytes or a tuple of bytes, not str"
      | _ =>
        let type ← messageTypeOf key
        raise .attribute ("'" ++ type ++ "' object has no attribute 'startswith'")

/-- Whether props have a key. -/
def hasProp (p : Props) (key : String) : Bool :=
  p.resolved.has key || p.attrs.has (propKey key).2

/-- The member of a value at an index, under a key or of a name. -/
def access (v index : Value) : Run Value := do
  match v with
  | .object n =>
    match ← objectAt n with
    | .props p => readPropAt perform n p index
    | _ => itemOf v index
  | _ => itemOf v index

/-! ### The next member -/

/-- Sets the state of an iteration. -/
def setIteration (number : Nat) (i : Iteration) : Run Unit := do
  match ← objectAt number with
  | .iteration name _ => setObject number (.iteration name i)
  | _ => return ()

/-- What a view of a dictionary shows of an entry. -/
def viewed (view : DictView) (e : Entry) : Run Value :=
  match view with
  | .keys => return e.key
  | .values => return e.value
  | .items => newTuple [e.key, e.value]

/-- The entry of a table after another one, in either direction. -/
def Table.after? (t : Table) (reverse : Bool) (last? : Option Nat) : Option Entry :=
  match last?, reverse with
  | none, false => t.entries.head?
  | none, true => t.entries.getLast?
  | some last, false => t.entries.find? (last < ·.number)
  | some last, true => t.entries.reverse.find? (·.number < last)

/-- The next entry of a dictionary, whose keys must not have changed. -/
def nextEntry (view : DictView) (reverse : Bool) (dict size left : Nat) (last? : Option Nat) :
    Run (Option (Value × Iteration)) := do
  let table ← tableOf dict
  if table.entries.length ≠ size then
    raise .runtime "dictionary changed size during iteration"
  else
    match table.after? reverse last?, left with
    | none, _ => return none
    | some _, 0 => raise .runtime "dictionary keys changed during iteration"
    | some e, left + 1 =>
      return some (← viewed view e, .entries view reverse dict size left (some e.number))

/-- The next member of an iteration that is not a comprehension, and the state after it. -/
def nextMember (i : Iteration) : Run (Option (Value × Iteration)) := do
  match i with
  | .ended => return none
  | .busy => raise .value "generator already executing"
  | .characters [] => return none
  | .characters (c :: cs) => return some (← newStr (String.singleton c), .characters cs)
  | .members [] => return none
  | .members (v :: vs) => return some (v, .members vs)
  | .stepping _ _ 0 => return none
  | .stepping next step (left + 1) =>
    return some (← newInt next, .stepping (next + step) step left)
  | .listed list position =>
    return (((← listItems list).getD [])[position]?).map fun v => (v, .listed list (position + 1))
  | .backwards _ 0 => return none
  | .backwards list (left + 1) =>
    return (((← listItems list).getD [])[left]?).map fun v => (v, .backwards list left)
  | .entries view reverse dict size left last? => nextEntry view reverse dict size left last?
  | .elements set size rest =>
    match ← objectAt set with
    | .set _ items =>
      if items.length ≠ size then raise .runtime "Set changed size during iteration"
      else return rest.head?.map fun v => (v, .elements set size rest.tail)
    | _ => return none
  | .indexed source index =>
    orElseOn .index (do
      return some (← access perform source (← newInt index), .indexed source (index + 1)))
      (return none)
  | .counted inner number =>
    match ← nextOf perform inner with
    | none => return none
    | some v => return some (← newTuple [← newInt number, v], .counted inner (number + 1))
  | .sideBySide strict inners =>
    if inners.isEmpty then return none
    else
      match ← if strict then nextOfEqual perform inners else nextOfAll perform inners with
      | none => return none
      | some vs => return some (← newTuple vs, i)
  | .mapped f inners =>
    match ← nextOfAll perform inners with
    | none => return none
    | some vs => return some (← callWith perform f vs, i)
  | .filtered f inner =>
    untilSome (fun _ => do
      match ← nextOf perform inner with
      | none => return .inr none
      | some v =>
        let kept ← match f with
          | .nothing => truthOf v
          | .builtin .bool => truthOf v
          | _ => do truthOf (← callWith perform f [v])
        if kept then return .inr (some (v, i)) else return .inl ()) roundLimit ()
  | .called f last =>
    let v ← callWith perform f []
    if ← alikeTo v last then return none else return some (v, i)
  | .comprehension _ => return none

end

end HtmlTemplate.Script
