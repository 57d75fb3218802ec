import HtmlTemplate.Script.Evaluation
import HtmlTemplate.Script.ExprText

/-!
# Execution

`runBlock` runs statements one after another with the help of a `Perform` for the expressions and
blocks inside them.
-/

namespace HtmlTemplate.Script

/-! ### Errors -/

/-- The error that a value stands for when it is raised; `refusal` is the message for other
values. -/
def errorOf (v : Value) (refusal : String) : Run Raised := do
  match v with
  | .builtin (.error kind) => return .error kind []
  | .object n =>
    match ← objectAt n with
    | .error r => return r
    | _ => raiseType refusal
  | _ => raiseType refusal

/-- Whether a value is a kind of errors, and whether an error is of it. -/
def isOfKind (r : Raised) : Value → Option Bool
  | .builtin (.error general) => some (r.kind.isA general)
  | .type name => some (r.kindName == name)
  | _ => none

/-- Whether an error is of the kind that a value is, or of one of the kinds in a tuple. -/
def isFor (r : Raised) (v : Value) : Run Bool := do
  let kinds := match v with
    | .tuple _ kinds => kinds
    | v => [v]
  match kinds.mapM (isOfKind r) with
  | some fits => return fits.any id
  | none => raiseType "catching classes that do not inherit from BaseException is not allowed"

/-- Does a computation while an error counts as being handled. -/
def whileHandling {α : Type} (r : Raised) (x : Run α) : Run α := do
  modify fun w => { w with handling := r :: w.handling }
  let leave : Run Unit := modify fun w => { w with handling := w.handling.drop 1 }
  let a ← tryCatch x fun r => do
    leave
    throw r
  leave
  return a

section

variable (perform : Perform)

/-- Runs the first handler that is for an error. -/
def handle (env : Env) (r : Raised) :
    List (Option Expr × Option String × List Statement) → Run Flow
  | [] => throw r
  | (kind?, name?, body) :: rest => do
    let fits ← match kind? with
      | none => pure true
      | some e => whileHandling r do isFor r (← evalIn perform env e)
    if fits then
      whileHandling r do
        match name? with
        | none => perform _ (.run env body)
        | some name =>
          bindName env name (← newObject (.error r))
          let flow ← tryCatch (perform _ (.run env body)) fun r => do
            clearName env name
            throw r
          clearName env name
          return flow
    else handle env r rest

/-- Runs a block with handlers for its errors, and at last a block that always runs. -/
def runGuarded (env : Env) (body : List Statement)
    (handlers : List (Option Expr × Option String × List Statement))
    (after always : List Statement) : Run Flow := do
  let attempt (x : Run Flow) : Run (Sum Raised Flow) :=
    tryCatch (do return .inr (← x)) fun r => return .inl r
  let guarded : Run Flow := do
    match ← attempt (perform _ (.run env body)) with
    | .inr .normal => perform _ (.run env after)
    | .inr flow => return flow
    | .inl .exhausted => throw .exhausted
    | .inl r => handle perform env r handlers
  match ← attempt guarded with
  | .inl .exhausted => throw .exhausted
  | .inl r =>
    match ← whileHandling r (perform _ (.run env always)) with
    | .normal => throw r
    | flow => return flow
  | .inr flow =>
    match ← perform _ (.run env always) with
    | .normal => return flow
    | other => return other

/-- Raises an error. -/
def raiseError (env : Env) (error? cause? : Option Expr) : Run Flow := do
  match error? with
  | none =>
    match (← get).handling with
    | r :: _ => throw r
    | [] => raise .runtime "No active exception to reraise"
  | some e =>
    let v ← evalIn perform env e
    let cause? ← evalOptional perform env cause?
    let r ← errorOf v "exceptions must derive from BaseException"
    match cause? with
    | none => throw r
    | some .nothing => throw r
    | some cause =>
      let _ ← errorOf cause "exception causes must derive from BaseException"
      throw r

/-- Runs one round of a loop. -/
def round (env : Env) (body : List Statement) : Run (Option Flow) := do
  match ← perform _ (.run env body) with
  | .stopped => return some .normal
  | .gave v => return some (.gave v)
  | _ => return none

/-- Assigns what an operator makes of the value of an expression. -/
def augmentTarget (env : Env) (target : Expr) (op : BinaryOp) (e : Expr) : Run Unit := do
  match target with
  | .name name =>
    let v ← valueOf env name
    bindName env name (← augmented perform op v (← evalIn perform env e))
  | .item owner index =>
    let owner ← evalIn perform env owner
    let index ← evalIn perform env index
    let v ← access perform owner index
    putAt perform owner index (← augmented perform op v (← evalIn perform env e))
  | .attribute owner name =>
    let owner ← evalIn perform env owner
    let v ← attributeOf perform owner name
    setAttribute owner name (← augmented perform op v (← evalIn perform env e))
  | _ => return ()

/-- The name that holds the notes of a program. -/
def notesName : String := "__annotations__"

/-- Assigns a value to an expression with a note. The notes on names of the outermost frame are kept
as texts. -/
def annotate (env : Env) (plain : Bool) (target note : Expr) (value? : Option Expr) : Run Unit := do
  match value?, target with
  | some e, _ => assign perform env target (← evalIn perform env e)
  | none, .attribute e _ => do
    let _ ← evalIn perform env e
  | none, .item e index => do
    let _ ← evalIn perform env e
    let _ ← evalIn perform env index
  | none, _ => pure ()
  match plain, target, env.frames with
  | true, .name name, [] =>
    let text ← newStr note.text
    putItem (← valueOf env notesName) (.text name) text
  | _, _, _ => return ()

/-- Makes room for the notes of a program that has some, and binds the text that it begins with. -/
def openProgram (env : Env) (body : List Statement) : Run Unit := do
  if blockHasNotes body && !(← bindingsOf env.globals).has notesName then
    bindName env notesName (← newDict [])
  if let some s := leadingText? body then
    bindName env leadingTextName (literalValue env.program (.str s))

/-- Defines a function. -/
def define (env : Env) (decorators : List Expr) (name : String) (params : Signature Expr)
    (body : List Statement) : Run Unit := do
  let decorators ← decorators.mapM (evalIn perform env)
  let mentions := blockMentions body
  let f ← newObject (.closure {
    name := name
    params := ← evalSignature perform env params
    body := body
    own := ownNames params mentions
    outermost := globalNames mentions
    env := env })
  bindName env name (← decorators.reverse.foldlM (fun f d => callWith perform d [f]) f)

/-- Runs a statement. -/
def runStatement (env : Env) : Statement → Run Flow
  | .expr e => do
    let _ ← evalIn perform env e
    return .normal
  | .assign targets e => do
    let v ← evalIn perform env e
    targets.forM fun target => assign perform env target v
    return .normal
  | .augment target op e => do
    augmentTarget perform env target op e
    return .normal
  | .annotate plain target note value? => do
    annotate perform env plain target note value?
    return .normal
  | .delete targets => do
    deleteAll perform env targets
    return .normal
  | .pass => return .normal
  | .stop => return .stopped
  | .skip => return .skipped
  | .give none => return .gave .nothing
  | .give (some e) => return .gave (← evalIn perform env e)
  | .fail error? cause? => raiseError perform env error? cause?
  | .check test text? => do
    if ← truthOf (← evalIn perform env test) then return .normal
    else throw (.error .assertion (← evalOptional perform env text?).toList)
  | .choose test yes no => do
    if ← truthOf (← evalIn perform env test) then perform _ (.run env yes)
    else perform _ (.run env no)
  | .loop test body after =>
    untilSome (fun _ => do
      if ← truthOf (← evalIn perform env test) then
        match ← round perform env body with
        | some flow => return .inr flow
        | none => return .inl ()
      else return .inr (← perform _ (.run env after))) roundLimit ()
  | .each target source body after => do
    let iteration ← iterate (← evalIn perform env source)
    untilSome (fun _ => do
      match ← nextOf perform iteration with
      | none => return .inr (← perform _ (.run env after))
      | some v =>
        assign perform env target v
        match ← round perform env body with
        | some flow => return .inr flow
        | none => return .inl ()) roundLimit ()
  | .define decorators name params _ body => do
    define perform env decorators name params body
    return .normal
  | .defineClass decorators _ _ => do
    let _ ← decorators.mapM (evalIn perform env)
    throw (.unbound .classMaker)
  | .within entered _ => do
    match entered with
    | (e, _) :: _ =>
      raiseTypeOf "'" (← evalIn perform env e)
        "' object does not support the context manager protocol"
    | [] => return .normal
  | .guarded body handlers after always => runGuarded perform env body handlers after always
  | .load .. => raise .load "__import__ not found"
  | .global _ => return .normal
  | .enclosing _ => return .normal

/-- Runs statements until one of them leaves the block. -/
def runBlock (env : Env) : List Statement → Run Flow
  | [] => return .normal
  | s :: rest => do
    match ← runStatement perform env s with
    | .normal => runBlock env rest
    | flow => return flow

end

end HtmlTemplate.Script
