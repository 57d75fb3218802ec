import HtmlTemplate.Script.Execution
import HtmlTemplate.Script.Library
import HtmlTemplate.Text.Margin

/-!
# Running programs

`interpret` does jobs: it evaluates expressions, runs statements, calls functions and evaluates
whole program texts. Each job is done by `doJob` with the help of an interpreter for the jobs inside
it, and the number given to `interpret` bounds how deep jobs may nest.
-/

namespace HtmlTemplate.Script

open HtmlTemplate.Text

/-- How deep calls of functions that programs define may nest. -/
def callLimit : Nat := 200000

/-- Does a computation inside the call of a function that a program defines. -/
def withinCall {α : Type} (x : Run α) : Run α := do
  let depth := (← get).depth
  if callLimit ≤ depth then raise .recursion "maximum recursion depth exceeded"
  else
    let setDepth (depth : Nat) : Run Unit := modify fun w => { w with depth := depth }
    setDepth (depth + 1)
    let a ← tryCatch x fun r => do
      setDepth depth
      throw r
    setDepth depth
    return a

section

variable (perform : Perform)

/-! ### Calls -/

/-- Calls a function that a program defines. -/
def callClosure (c : Closure) (args : List Value) (named : Named) : Run Value := do
  let title := c.env.within ++ c.name
  let frame ← newNumber (.names (.ofBindings (← bindArguments title c.params args named)))
  let env := { c.env with
    frames := { own := c.own, outermost := c.outermost, number := frame } :: c.env.frames
    within := title ++ ".<locals>." }
  withinCall do
    match ← perform _ (.run env c.body) with
    | .gave v => return v
    | _ => return .nothing

/-- Calls a value. -/
def callValue (f : Value) (args : List Value) (named : Named) : Run Value := do
  let refuse : Run Value := raiseTypeOf "'" f "' object is not callable"
  match f with
  | .builtin b => callBuiltin perform b args named
  | .unbound type name => callUnbound perform type name args named
  | .method _ receiver name => callMethod perform receiver name args named
  | .type name => raiseType ("cannot create '" ++ name ++ "' instances")
  | .object n =>
    match ← objectAt n with
    | .closure c => callClosure perform c args named
    | .helper h => callHelper n h args named
    | _ => refuse
  | _ => refuse

/-! ### Iterations -/

/-- Whether an iteration that has nothing more never has anything more. -/
def Iteration.staysEnded : Iteration → Bool
  | counted .. => false
  | sideBySide .. => false
  | mapped .. => false
  | filtered .. => false
  | _ => true

/-- The next member of a comprehension that is gone through on demand. Its own end and the end of
what it calls are not to be confused, so the latter is an error of another kind. -/
def nextOnDemand (n : Nat) (c : Comprehension) : Run (Option (Value × Iteration)) := do
  setIteration n .busy
  tryCatch (do return (← nextOfComprehension perform c).map fun (v, c) => (v, .comprehension c))
    fun r => do
      setIteration n .ended
      match r with
      | .error .ended _ => raise .runtime "generator raised StopIteration"
      | r => throw r

/-- The next member of an iteration. -/
def nextStep (n : Nat) : Run (Option Value) := do
  match ← objectAt n with
  | .iteration _ i =>
    let next? ← match i with
      | .comprehension c => nextOnDemand perform n c
      | i => nextMember perform i
    match next? with
    | none => do
      if i.staysEnded then setIteration n .ended
      return none
    | some (v, i) =>
      setIteration n i
      return some v
  | _ => raiseTypeOf "'" (.object n) "' object is not an iterator"

/-! ### Program texts -/

/-- The names that stand for fixed values. -/
def aliases : Bindings Value :=
  [("true", .bool true), ("false", .bool false), ("null", .nothing), ("undefined", .nothing)]

/-- The name under which programs find the library. -/
def libraryName : String := "__builtins__"

/-- What a program text sees of a scope: the fixed names with the bindings of the scope over them,
and the library. -/
def namespaceOf (library : Nat) (scope : Scope Value) : Bindings Value :=
  (Bindings.overlay aliases scope.flatten).put libraryName (.object library)

theorem distinct_namespaceOf (library : Nat) (scope : Scope Value) :
    (namespaceOf library scope).names.Nodup :=
  Bindings.nodup_names_put (Bindings.nodup_names_overlay (by decide) _) _ _

/-- Reads a program text by way of the cache. -/
def readCached (mode : ReadMode) (source : String) : Run (Program × Nat) := do
  let read ← modifyGet fun w =>
    let (read, cache) := w.cache.read mode source
    (read, { w with cache := cache })
  match read with
  | .ok program => return program
  | .error flaw => throw flaw.raised

/-- Notes that a program text is run, or should be run when it is missing. -/
def noteCall (mode : ReadMode) (source? : Option String) : Run Unit :=
  modify fun w => { w with calls := (mode, source?) :: w.calls }

/-- What an error that a name has no value is about. -/
def Raised.unboundSubject? (w : World) (r : Raised) : Option String :=
  match r with
  | unbound u => some u.subject
  | error .unbound _ => some (r.text w)
  | error .unboundLocal _ => some (r.text w)
  | _ => none

/-- Turns the use of an unbound name into a diagnostic about the program text. -/
def withDiagnosis {α : Type} (source : String) (globals : Nat) (x : Run α) : Run α :=
  tryCatch x fun r => do
    match r.unboundSubject? (← get) with
    | some name =>
      let available := (← bindingsOf globals).names.filter (· != libraryName)
      throw (.diagnostic {
        problem := .undefinedVariable name (some (strip source)) available })
    | none => throw r

/-- A frame for a program text that sees a scope. -/
def openFrame (scope : Scope Value) : Run (Namespace × Nat) := do
  let library := (← get).library
  let before : Namespace := ⟨namespaceOf library scope, distinct_namespaceOf library scope⟩
  return (before, ← newNumber (.names before))

/-- The value of a program text. -/
def evaluateStep (source : String) (scope : Scope Value) : Run Value := do
  noteCall .expression (some source)
  match ← readCached .expression (strip source) with
  | (.expression e, program) =>
    let (_, globals) ← openFrame scope
    withDiagnosis source globals (evalIn perform { globals := globals, program := program } e)
  | (.script _, _) => return .nothing

/-- Does a job with the help of `perform` for the jobs inside it. -/
def doJob : (α : Type) → Job α → Run α
  | _, .eval env e => evalStep perform env e
  | _, .run env block => runBlock perform env block
  | _, .call f args named => callValue perform f args named
  | _, .next n => nextStep perform n
  | _, .evaluate source scope => evaluateStep perform source scope

end

/-- Does a job whose inner jobs nest at most so deep. -/
def interpret : Nat → Perform
  | 0 => fun _ _ => throw .exhausted
  | depth + 1 => doJob (interpret depth)

/-- A world in which programs may use the whole library. -/
def World.initial : World := {
  objects := #[.dict (.ofPairs (Builtin.everything.map fun b => (.text b.name, .builtin b)))] }

/-- How deep jobs may nest. -/
def depthLimit : Nat := 1000000

/-- The value of a program text in a scope. -/
def evaluate (source : String) (scope : Scope Value) : Run Value :=
  interpret depthLimit _ (.evaluate source scope)

/-- The value of a missing program text, of which there is none. -/
def evaluateMissing : Run Value := do
  noteCall .expression none
  throw (.error .attribute [])

/-- The text of statements as they are read: without its margin and the empty lines around it. -/
def scriptText (source : String) : String :=
  String.ofList (trimWhile (· == '\n') (dedent source).toList)

/-- Binds in the innermost frame what a program text leaves bound anew or to another value. -/
def commit (scope : Scope Value) (before after : Bindings Value) : Scope Value :=
  after.foldl (fun scope entry =>
    if entry.1 == libraryName then scope
    else
      match before.get? entry.1 with
      | some v => if v.same entry.2 then scope else scope.put entry.1 entry.2
      | none => scope.put entry.1 entry.2) scope

/-- Runs a program text as statements that see a scope; gives the bindings that the program starts
with and those that it leaves. -/
def runScript (source : String) (scope : Scope Value) : Run (Namespace × Namespace) := do
  noteCall .script (some source)
  match ← readCached .script (scriptText source) with
  | (.script body, program) =>
    let (before, globals) ← openFrame scope
    let env : Env := { globals := globals, program := program }
    withDiagnosis source globals do
      openProgram env body
      let _ ← interpret depthLimit _ (.run env body)
    return (before, ← namespaceAt globals)
  | (.expression _, _) => return (.ofBindings [], .ofBindings [])

/-- Runs a program text as statements in a scope, and gives the scope as it is afterwards. -/
def execute (source : String) (scope : Scope Value) : Run (Scope Value) := do
  let (before, after) ← runScript source scope
  return commit scope before.bindings after.bindings

/-! ### What templates make of values -/

/-- Equality without a change of type; each value is equal to itself. -/
def strictlyEqual (a b : Value) : Run Bool := do
  if a.same b then return true else return (← datumOf a).strictEqual (← datumOf b)

/-- The text of a value in the output; nothing and false have none. -/
def outputText (v : Value) : Run (Option String) := do
  match v with
  | .nothing => return none
  | .bool false => return none
  | _ => return some (← textOf v)

end HtmlTemplate.Script
