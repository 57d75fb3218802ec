import HtmlTemplate.Script.Library.Attribute
import HtmlTemplate.Script.Names

/-!
# Assignment

`assign` gives the value of a name, an attribute or an item, or those of several targets at once;
`delete` removes them.
-/

namespace HtmlTemplate.Script

section

variable (perform : Perform)

/-- The value of an expression inside another. -/
def evalIn (env : Env) (e : Expr) : Run Value := perform _ (.eval env e)

/-! ### Taking values apart -/

/-- The next members of an iteration, at most so many. -/
def takeMembers (iteration : Value) : Nat → Run (List Value)
  | 0 => return []
  | count + 1 => do
    match ← nextOf perform iteration with
    | some v => return v :: (← takeMembers iteration count)
    | none => return []

/-- Raises the error that a value has too few members. -/
def raiseTooFew {α : Type} (least : String) (count got : Nat) : Run α :=
  raise .value ("not enough values to unpack (expected " ++ least ++ toString count ++ ", got " ++
    toString got ++ ")")

/-- The members of a value that is taken apart into so many; with a `rest` it may have more. -/
def takeApart (v : Value) (count : Nat) (rest : Bool) : Run (List Value) := do
  let all ← match v with
    | .tuple _ items => pure (some items)
    | .object n => listItems n
    | _ => pure none
  match all with
  | some items =>
    if items.length < count then raiseTooFew (if rest then "at least " else "") count items.length
    else if !rest && count < items.length then
      raise .value ("too many values to unpack (expected " ++ toString count ++ ")")
    else return items
  | none =>
    let iteration ← tryCatch (iterate v) fun r => match r with
      | .error .type _ => raiseTypeOf "cannot unpack non-iterable " v " object"
      | r => throw r
    if rest then
      let items ← allMembers perform iteration
      if items.length < count then raiseTooFew "at least " count items.length else return items
    else
      let items ← takeMembers perform iteration count
      if items.length < count then raiseTooFew "" count items.length
      else
        match ← nextOf perform iteration with
        | some _ => raise .value ("too many values to unpack (expected " ++ toString count ++ ")")
        | none => return items

/-- Whether a target takes the members that other targets leave over. -/
def Expr.isSpread : Expr → Bool
  | .spread _ => true
  | _ => false

/-! ### Items -/

/-- Puts a value at an index or under a key, or values in the place of those that a slice takes. -/
def putAt (v index value : Value) : Run Unit := do
  match v, index with
  | .object n, .slice _ a b c =>
    match ← listItems n with
    | some items => do
      let bounds ← boundsOf items.length a b c
      let more ← allMembersOr perform value (raiseType (if bounds.step = 1
        then "can only assign an iterable" else "must assign iterable to extended slice"))
      setObject n (.list (← withSlice ((← listItems n).getD []) bounds more))
    | none => putItem v index value
  | _, _ => putItem v index value

/-! ### Targets -/

mutual

/-- Assigns a value to an expression. -/
def assign (env : Env) (target : Expr) (v : Value) : Run Unit :=
  match target with
  | .name name => bindName env name v
  | .attribute e name => do setAttribute (← evalIn perform env e) name v
  | .item e index => do
    let owner ← evalIn perform env e
    putAt perform owner (← evalIn perform env index) v
  | .tuple targets => do assignAll env targets (← parts targets v)
  | .list targets => do assignAll env targets (← parts targets v)
  | _ => return ()
where
  /-- The parts of a value for targets. -/
  parts (targets : List Expr) (v : Value) : Run (List Value) :=
    let rest := targets.any Expr.isSpread
    takeApart perform v (if rest then targets.length - 1 else targets.length) rest

/-- Assigns values to expressions, one of which may take all that are left over. -/
def assignAll (env : Env) (targets : List Expr) (vs : List Value) : Run Unit :=
  match targets with
  | [] => return ()
  | .spread target :: targets => do
    let count := vs.length - targets.length
    assign env target (← newList (vs.take count))
    assignAll env targets (vs.drop count)
  | target :: targets => do
    match vs with
    | v :: vs => do
      assign env target v
      assignAll env targets vs
    | [] => return ()

end

mutual

/-- Removes what an expression stands for. -/
def delete (env : Env) (target : Expr) : Run Unit :=
  match target with
  | .name name => unbindName env name
  | .item e index => do
    let owner ← evalIn perform env e
    removeItem owner (← evalIn perform env index)
  | .attribute e name => do removeAttribute (← evalIn perform env e) name
  | .tuple targets => deleteAll env targets
  | .list targets => deleteAll env targets
  | _ => return ()

/-- Removes what several expressions stand for. -/
def deleteAll (env : Env) (targets : List Expr) : Run Unit :=
  match targets with
  | [] => return ()
  | target :: targets => do
    delete env target
    deleteAll env targets

end

end

end HtmlTemplate.Script
