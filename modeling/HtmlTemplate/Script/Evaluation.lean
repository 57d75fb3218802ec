import HtmlTemplate.Script.Assignment
import HtmlTemplate.Script.Library.FieldText

/-!
# Evaluation

`evalStep` gives the value of an expression with the help of a `Perform` for the expressions inside
it. Values that a program text writes down, and those of expressions made of such values alone, are
the same each time the text is run.
-/

namespace HtmlTemplate.Script

open HtmlTemplate.Number HtmlTemplate.Text

/-! ### Values that are written down -/

/-- Whether a text has the form of a name, so that it exists only once. -/
def isNameLike (s : String) : Bool := s.toList.all fun c => c.isAlphanum || c == '_'

/-- A value as the one that a program text writes down. -/
def Value.asWritten (program : Nat) (v : Value) : Value :=
  match v with
  | int _ n => int (if -5 ≤ n ∧ n ≤ 256 then .shared else .written program) n
  | float _ x => float (.written program) x
  | complex _ z => complex (.written program) z
  | str _ s => str (if isSingular s || isNameLike s then .shared else .written program) s
  | bytes _ b => bytes (if b.length ≤ 1 then .shared else .written program) b
  | tuple _ items =>
    tuple (if items.isEmpty then .shared else .written program) (allWritten program items)
  | v => v
where
  /-- Values as those that a program text writes down. -/
  allWritten (program : Nat) : List Value → List Value
    | [] => []
    | v :: vs => asWritten program v :: allWritten program vs

/-- The value of a literal. -/
def literalValue (program : Nat) : Literal → Value
  | .nothing => .nothing
  | .bool b => .bool b
  | .int n => Value.asWritten program (.int .shared n)
  | .float x => .float (.written program) x
  | .imaginary x => .complex (.written program) (.ofImaginary x)
  | .str s => Value.asWritten program (.str .shared s)
  | .bytes b => Value.asWritten program (.bytes .shared b)
  | .ellipsis => .ellipsis

/-- The names that belong to a function. -/
def ownNames {α : Type} (params : Signature α) (mentions : List Mention) : List String :=
  let elsewhere := globalNames mentions ++ enclosingNames mentions
  (params.names ++ boundNames mentions).filter fun n => !elsewhere.contains n

section

variable (perform : Perform)

/-! ### Parts of expressions -/

/-- The value of an expression that may be left out. -/
def evalOptional (env : Env) : Option Expr → Run (Option Value)
  | none => return none
  | some e => return some (← evalIn perform env e)

/-- The value of a bound of a slice. -/
def evalBound (env : Env) (e? : Option Expr) : Run Value := do
  return (← evalOptional perform env e?).getD .nothing

/-- The values of items, among which those of other values may be spread. -/
def evalItems (env : Env) (refuse : Value → Run Unit) : List Expr → Run (List Value)
  | [] => return []
  | .spread e :: es => do
    let v ← evalIn perform env e
    let items ← allMembersOr perform v (refuse v)
    return items ++ (← evalItems env refuse es)
  | e :: es => do
    let v ← evalIn perform env e
    return v :: (← evalItems env refuse es)

/-- The values of the items of a list or a tuple. -/
def evalRow (env : Env) (items : List Expr) : Run (List Value) :=
  evalItems perform env (fun v => raiseTypeOf "Value after * must be an iterable, not " v "") items

/-- Whether a value has keys and values. -/
def isMapping (v : Value) : Run Bool := do
  match v with
  | .object n =>
    match ← objectAt n with
    | .dict _ => return true
    | .props _ => return true
    | _ => return false
  | _ => return false

/-- The dictionary of entries, among which those of other dictionaries may be spread. -/
def evalEntries (env : Env) (t : Table) : List (Option Expr × Expr) → Run Table
  | [] => return t
  | (some k, e) :: rest => do
    let key ← evalIn perform env k
    let v ← evalIn perform env e
    evalEntries env (← putEntry t key v) rest
  | (none, e) :: rest => do
    let v ← evalIn perform env e
    unless ← isMapping v do raiseTypeOf "'" v "' object is not a mapping"
    evalEntries env (← mergeInto perform t v fun _ => return ()) rest

/-- Whether a chain of comparisons holds; it ends with the first that does not. -/
def holdsAll (env : Env) (a : Value) : List (Comparison × Expr) → Run Bool
  | [] => return true
  | (op, e) :: rest => do
    let b ← evalIn perform env e
    if ← holds perform op a b then holdsAll env b rest else return false

/-! ### Calls -/

/-- A value that is called, in messages. -/
def calleeText (f : Value) : Run String := do
  match f with
  | .builtin b => return b.name ++ "()"
  | .type name => return name ++ "()"
  | .unbound type name => return type ++ "." ++ name ++ "()"
  | .method _ r name => return (← typeOf r) ++ "." ++ name ++ "()"
  | .object n =>
    match ← objectAt n with
    | .closure c => return c.env.within ++ c.name ++ "()"
    | _ => shown f
  | _ => shown f

/-- The named arguments of a call, among which the entries of dictionaries may be spread. -/
def evalNamed (env : Env) (f : Value) (found : Named) :
    List (Option String × Expr) → Run Named
  | [] => return found
  | (name?, e) :: rest => do
    let v ← evalIn perform env e
    let more : List (Value × Value) ← match name? with
      | some name => pure [(.text name, v)]
      | none => do
        unless ← isMapping v do
          raiseTypeOf ((← calleeText f) ++ " argument after ** must be a mapping, not ") v ""
        pure (← mergeInto perform {} v fun _ => return ()).pairs
    let found ← more.foldlM (fun (found : Named) (k, v) => do
      match k with
      | .str _ name =>
        if found.any (·.1 == name) then
          raiseType ((← calleeText f) ++ " got multiple values for keyword argument '" ++ name ++
            "'")
        else return found ++ [(name, v)]
      | _ => raiseType "keywords must be strings") found
    evalNamed env f found rest

/-- The value of a call. -/
def evalCall (env : Env) (f : Expr) (args : List Expr) (named : List (Option String × Expr)) :
    Run Value := do
  let f ← evalIn perform env f
  let args ← evalItems perform env (fun v => do
    raiseTypeOf ((← calleeText f) ++ " argument after * must be an iterable, not ") v "") args
  perform _ (.call f args (← evalNamed perform env f [] named))

/-- The parameters of a function with the values of their defaults. -/
def evalSignature (env : Env) (s : Signature Expr) : Run (Signature Value) := do
  let withDefaults (params : List (String × Option Expr)) : Run (List (String × Option Value)) :=
    params.mapM fun p => return (p.1, ← evalOptional perform env p.2)
  let params ← withDefaults s.params
  return { placed := s.placed, params := params, rest? := s.rest?,
           named := ← withDefaults s.named, others? := s.others? }

/-! ### Embedded expressions -/

mutual

/-- The value of a part of a text. -/
def evalPiece (env : Env) : Piece → Run Value
  | .text s => newStr s
  | .value e letter? layout? => do
    let v ← converted letter? (← evalIn perform env e)
    formatted v (← evalLayout env layout?)

/-- The text of a layout. -/
def evalLayout (env : Env) : Option (List Piece) → Run String
  | none => return ""
  | some parts => do
    let vs ← evalPieces env parts
    return String.join (← vs.mapM textOf)

/-- The values of the parts of a text. -/
def evalPieces (env : Env) : List Piece → Run (List Value)
  | [] => return []
  | p :: ps => do
    let v ← evalPiece env p
    return v :: (← evalPieces env ps)

end

/-- The text of parts. -/
def evalInterpolated (env : Env) (parts : List Piece) : Run Value := do
  match parts with
  | [] => return .text ""
  | [.text s] => return literalValue env.program (.str s)
  | _ =>
    match ← evalPieces perform env parts with
    | [v] => return v
    | vs => newStr (String.join (← vs.mapM textOf))

/-! ### Comprehensions -/

/-- The next member of a comprehension and the comprehension after it. -/
def nextOfComprehension (c : Comprehension) : Run (Option (Value × Comprehension)) :=
  untilSome (fun (c : Comprehension) => do
    match c.sources with
    | [] => return .inr none
    | source :: outer =>
      match ← nextOf perform source, c.clauses[c.sources.length - 1]? with
      | some v, some (target, _, tests) =>
        assign perform c.env target v
        if ← tests.allM fun test => do truthOf (← evalIn perform c.env test) then
          match c.clauses[c.sources.length]? with
          | some (_, inner, _) =>
            let inner ← iterate (← evalIn perform c.env inner)
            return .inl { c with sources := inner :: c.sources }
          | none =>
            let v ← evalIn perform c.env c.member
            match c.value? with
            | none => return .inr (some (v, c))
            | some value => return .inr (some (← newTuple [v, ← evalIn perform c.env value], c))
        else return .inl c
      | _, _ => return .inl { c with sources := outer }) roundLimit c

/-- Goes through the members of a comprehension. -/
def foldComprehension {σ : Type} (c : Comprehension) (s : σ) (step : σ → Value → Run σ) : Run σ :=
  untilSome (fun (c, s) => do
    match ← nextOfComprehension perform c with
    | some (v, c) => return .inl (c, ← step s v)
    | none => return .inr s) roundLimit (c, s)

/-- The name of a comprehension in messages. -/
def Collect.title : Collect → String
  | list => "<listcomp>"
  | set => "<setcomp>"
  | dict => "<dictcomp>"
  | lazily => "<genexpr>"

/-- The value of a comprehension. -/
def evalComprehension (env : Env) (kind : Collect) (member : Expr) (value? : Option Expr)
    (clauses : List (Expr × Expr × List Expr)) : Run Value := do
  match clauses with
  | [] => return .nothing
  | (_, source, _) :: _ =>
    let source ← iterate (← evalIn perform env source)
    let frame : Frame := {
      own := boundNames (clauses.flatMap fun clause => clause.1.targetMentions)
      number := ← newNumber (.names (.ofBindings [])) }
    let env := { env with
      frames := frame :: env.frames
      within := env.within ++ kind.title ++ "." }
    let c : Comprehension := ⟨member, value?, clauses, env, [source]⟩
    match kind with
    | .lazily => newIteration "generator" (.comprehension c)
    | .list =>
      newList (← foldComprehension perform c [] fun found v => return v :: found).reverse
    | .set => do newSet false (← foldComprehension perform c [] addMember)
    | .dict =>
      newObject (.dict (← foldComprehension perform c {} fun t pair => do
        match pair with
        | .tuple _ [k, v] => putEntry t k v
        | _ => return t))

/-! ### Expressions -/

/-- The value of an expression as it is worked out anew. -/
def evalAnew (env : Env) : Expr → Run Value
  | .literal l => return literalValue env.program l
  | .name name => valueOf env name
  | .tuple items => do newTuple (← evalRow perform env items)
  | .list items => do newList (← evalRow perform env items)
  | .set items => do
    let items ← evalItems perform env (fun v => raiseTypeOf "'" v "' object is not iterable") items
    newSet false (← distinct items)
  | .dict entries => do newObject (.dict (← evalEntries perform env {} entries))
  | .spread e => evalIn perform env e
  | .unary op e => do unaryOperation op (← evalIn perform env e)
  | .binary op a b => do
    let a ← evalIn perform env a
    binaryOperation perform op a (← evalIn perform env b)
  | .negation e => return .bool !(← truthOf (← evalIn perform env e))
  | .both a b => do
    let a ← evalIn perform env a
    if ← truthOf a then evalIn perform env b else return a
  | .oneOf a b => do
    let a ← evalIn perform env a
    if ← truthOf a then return a else evalIn perform env b
  | .compare first rest => do
    return .bool (← holdsAll perform env (← evalIn perform env first) rest)
  | .choose test yes no => do
    if ← truthOf (← evalIn perform env test) then evalIn perform env yes else evalIn perform env no
  | .attribute e name => do attributeOf perform (← evalIn perform env e) name
  | .item e index => do
    let owner ← evalIn perform env e
    access perform owner (← evalIn perform env index)
  | .slice start? stop? step? => do
    let start ← evalBound perform env start?
    let stop ← evalBound perform env stop?
    newSlice start stop (← evalBound perform env step?)
  | .call f args named => evalCall perform env f args named
  | .comprehension kind member value? clauses =>
    evalComprehension perform env kind member value? clauses
  | .function params body => do
    newObject (.closure {
      name := "<lambda>"
      params := ← evalSignature perform env params
      body := [.give (some body)]
      own := ownNames params (body.mentions false)
      env := env })
  | .bind name e => do
    let v ← evalIn perform env e
    bindName env name v
    return v
  | .interpolated parts => evalInterpolated perform env parts

/-- The value of an expression. -/
def evalStep (env : Env) (e : Expr) : Run Value := do
  let v ← evalAnew perform env e
  return if e.isConstant then v.asWritten env.program else v

end

end HtmlTemplate.Script
