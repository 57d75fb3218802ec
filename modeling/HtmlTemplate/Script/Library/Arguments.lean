import HtmlTemplate.Script.View

/-!
# Arguments

How arguments go to the parameters of functions. `checkArguments` checks the number of arguments of
the functions and methods of the library, `keyedArguments` sorts arguments that may be given by name,
and `bindArguments` binds the parameters of functions that programs define.
-/

namespace HtmlTemplate.Script

/-- Arguments given by name. -/
abbrev Named := List (String × Value)

/-! ### Functions of the library -/

/-- Parameters of a function of the library that may be given by name. -/
structure Keyed where
  params : List String
  /-- How many of the first parameters are given by their place alone. -/
  placed : Nat := 0
  /-- How many arguments may be given by their place. -/
  mostPlaced : Nat := params.length
  required : Nat := 0
  /-- Whether the message that an argument is missing tells its place. -/
  tellsPlace : Bool := true

/-- How many arguments a function of the library takes. -/
inductive ArgumentRule
  | none
  | one
  | counted (least : Nat) (most? : Option Nat)
  /-- Counted like the fields of a form. -/
  | parsed (least : Nat) (most? : Option Nat)
  | keyed (k : Keyed)
  /-- The function looks at its arguments itself. -/
  | free

/-- A noun with its number. -/
def countOf (n : Nat) (noun : String) : String :=
  toString n ++ " " ++ noun ++ (if n = 1 then "" else "s")

/-- Checks the number of arguments; `name` is the function in messages and `title` the function with
the type it belongs to. -/
def checkArguments (name title : String) (rule : ArgumentRule) (args : List Value)
    (named : Named) : Run Unit := do
  let n := args.length
  let given := " (" ++ toString n ++ " given)"
  let nothingNamed : Run Unit :=
    if named.isEmpty then return () else raiseType (title ++ "() takes no keyword arguments")
  let got (amount : String) : Run Unit :=
    raiseType ((if name.isEmpty then "" else name ++ " ") ++ "expected " ++ amount ++ ", got " ++
      toString n)
  match rule with
  | .none => do
    nothingNamed
    unless n = 0 do raiseType (title ++ "() takes no arguments" ++ given)
  | .one => do
    nothingNamed
    unless n = 1 do raiseType (title ++ "() takes exactly one argument" ++ given)
  | .counted least most? => do
    nothingNamed
    if most? == some least then
      unless n = least do got (countOf least "argument")
    else
      if n < least then got ("at least " ++ countOf least "argument")
      if let some most := most? then
        if most < n then got ("at most " ++ countOf most "argument")
  | .parsed least most? => do
    unless named.isEmpty do raiseType (name ++ "() takes no keyword arguments")
    if n < least then
      raiseType (name ++ "() takes at least " ++ countOf least "argument" ++ given)
    if let some most := most? then
      if most < n then
        raiseType (name ++ "() takes at most " ++ countOf most "argument" ++ given)
  | .keyed _ => return ()
  | .free => return ()

/-- Sorts arguments by the parameters that they are for. -/
def keyedArguments (name : String) (k : Keyed) (args : List Value) (named : Named) :
    Run (List (Option Value)) := do
  let total := args.length + named.length
  let size := k.params.length
  if size < total then
    raiseType (name ++ "() takes " ++ (if k.required = size then "exactly " else "at most ") ++
      toString size ++ (if args.isEmpty then " keyword argument" else " argument") ++
      (if size = 1 then "" else "s") ++ " (" ++ toString total ++ " given)")
  else if k.mostPlaced < args.length then
    if k.mostPlaced = 0 then raiseType (name ++ "() takes no positional arguments")
    else raiseType (name ++ "() takes at most " ++ countOf k.mostPlaced "positional argument" ++
      " (" ++ toString args.length ++ " given)")
  else
    let found ← k.params.zipIdx.mapM fun (param, i) => do
      match args[i]? with
      | some v =>
        if k.placed ≤ i && named.any (·.1 == param) then
          raiseType ("argument for " ++ name ++ "() given by name ('" ++ param ++
            "') and position (" ++ toString (i + 1) ++ ")")
        else return some v
      | none =>
        let v? := if k.placed ≤ i then named.lookup param else none
        if v?.isNone && i < k.required then
          if i < k.placed then
            raiseType (name ++ "() takes at least " ++ countOf k.required "positional argument" ++
              " (" ++ toString args.length ++ " given)")
          else
            raiseType (name ++ "() missing required argument '" ++ param ++ "'" ++
              (if k.tellsPlace then " (pos " ++ toString (i + 1) ++ ")" else ""))
        else return v?
    match named.find? fun n => !(k.params.drop k.placed).contains n.1 with
    | some n => raiseType ("'" ++ n.1 ++ "' is an invalid keyword argument for " ++ name ++ "()")
    | none => return found

/-! ### Functions of programs -/

/-- Quoted names with commas and a last `and` between them. -/
def nameList (names : List String) : String :=
  match names.map fun n => "'" ++ n ++ "'" with
  | [] => ""
  | [a] => a
  | [a, b] => a ++ " and " ++ b
  | many => ", ".intercalate many.dropLast ++ ", and " ++ many.getLast?.getD ""

/-- Raises the error that arguments are missing. -/
def raiseMissing {α : Type} (title kind : String) (names : List String) : Run α :=
  raiseType (title ++ "() missing " ++ toString names.length ++ " required " ++ kind ++
    " argument" ++ (if names.length = 1 then "" else "s") ++ ": " ++ nameList names)

/-- Raises the error that there are too many arguments; `namedGiven` counts those for parameters
that are given by name alone. -/
def raiseTooMany {α : Type} (title : String) (s : Signature Value) (given namedGiven : Nat) :
    Run α :=
  let most := s.params.length
  let least := (s.params.filter (·.2.isNone)).length
  let takes := if least < most then "from " ++ toString least ++ " to " ++ toString most
    else toString most
  let plural (n : Nat) : String := if n = 1 then "" else "s"
  let also := if namedGiven = 0 then ""
    else " positional argument" ++ plural given ++ " (and " ++ toString namedGiven ++
      " keyword-only argument" ++ plural namedGiven ++ ")"
  raiseType (title ++ "() takes " ++ takes ++ " positional argument" ++
    (if least < most then "s" else plural most) ++ " but " ++ toString given ++ also ++
    (if given = 1 && namedGiven = 0 then " was" else " were") ++ " given")

/-- Takes the arguments that are given by name into the bindings of parameters, and gives those that
no parameter is for. -/
def bindNamed (title : String) (s : Signature Value) (named : Named) (bound : Bindings Value) :
    Run (Bindings Value × Named) :=
  let free := s.params.drop s.placed ++ s.named
  named.foldlM (fun (bound, others) (name, v) => do
    if free.any (·.1 == name) then
      if bound.has name then
        raiseType (title ++ "() got multiple values for argument '" ++ name ++ "'")
      else return (bound.put name v, others)
    else if s.others?.isSome then return (bound, others ++ [(name, v)])
    else
      let misplaced := (s.params.take s.placed).filter fun p => named.any (·.1 == p.1)
      if misplaced.isEmpty then
        raiseType (title ++ "() got an unexpected keyword argument '" ++ name ++ "'")
      else
        raiseType (title ++
          "() got some positional-only arguments passed as keyword arguments: '" ++
          ", ".intercalate (misplaced.map (·.1)) ++ "'")) (bound, [])

/-- The bindings of parameters to arguments; `title` is the function in messages. -/
def bindArguments (title : String) (s : Signature Value) (args : List Value) (named : Named) :
    Run (Bindings Value) := do
  let placed : Bindings Value := (s.params.zip args).map fun (p, v) => (p.1, v)
  let (bound, others) ← bindNamed title s named placed
  let more := args.drop s.params.length
  if !more.isEmpty && s.rest?.isNone then
    raiseTooMany title s args.length (s.named.filter fun p => bound.has p.1).length
  else
    let absent (params : List (String × Option Value)) : List String :=
      (params.filter fun p => p.2.isNone && !bound.has p.1).map (·.1)
    let missing := absent s.params
    if !missing.isEmpty then raiseMissing title "positional" missing
    else if !(absent s.named).isEmpty then raiseMissing title "keyword-only" (absent s.named)
    else
      let withDefaults := (s.params ++ s.named).foldl (fun (b : Bindings Value) p =>
        match p.2 with
        | some v => if b.has p.1 then b else b.put p.1 v
        | none => b) bound
      let withRest ← match s.rest? with
        | some name => do pure (withDefaults.put name (← newTuple more))
        | none => pure withDefaults
      match s.others? with
      | some name => do
        return withRest.put name (← newDict (others.map fun (n, v) => (.text n, v)))
      | none => return withRest

end HtmlTemplate.Script
