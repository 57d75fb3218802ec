import HtmlTemplate.Script.Library.KeyMethods
import HtmlTemplate.Script.Library.Sorting

/-!
# Functions of the library

The functions that every program may use: `Builtin.rule` says what arguments they take and
`callBuiltin` calls them.
-/

namespace HtmlTemplate.Script

open HtmlTemplate.Number HtmlTemplate.Text

/-- The arguments that a function takes. -/
def Builtin.rule : Builtin → ArgumentRule
  | bool => .counted 0 (some 1)
  | int => .keyed { params := ["", "base"], placed := 1 }
  | float => .counted 0 (some 1)
  | str => keyedBy ["object", "encoding", "errors"]
  | list => .counted 0 (some 1)
  | dict => .free
  | tuple => .counted 0 (some 1)
  | set => .counted 0 (some 1)
  | frozenset => .counted 0 (some 1)
  | divmod => .counted 2 (some 2)
  | enumerate => .keyed { params := ["iterable", "start"], required := 1, tellsPlace := false }
  | filter => .counted 2 (some 2)
  | format => .counted 1 (some 2)
  | getattr => .counted 2 (some 3)
  | hasattr => .counted 2 (some 2)
  | isinstance => .counted 2 (some 2)
  | iter => .counted 1 (some 2)
  | map => .counted 0 none
  | max => .free
  | min => .free
  | next => .counted 1 (some 2)
  | pow => .keyed { params := ["base", "exp", "mod"], required := 2 }
  | range => .counted 1 (some 3)
  | reversed => .counted 1 (some 1)
  | round => .keyed { params := ["number", "ndigits"], required := 1 }
  | slice => .counted 1 (some 3)
  | sorted => .free
  | sum => .keyed { params := ["iterable", "start"], placed := 1, required := 1 }
  | zip => .free
  | error _ => .counted 0 none
  | _ => .one

section

variable (perform : Perform)

/-! ### Members -/

/-- Whether all members of a value count as true, or any, up to the first that decides it. -/
def decidedBy (wanted : Bool) (v : Value) : Run Value := do
  return .bool (← throughMembers perform v () (fun _ member => do
    if (← truthOf member) == wanted then return .inr wanted else return .inl ())
    fun _ => return !wanted)

/-- Adds up the members of a value. -/
def sumOf (v start : Value) : Run Value := do
  let iteration ← iterate v
  match start with
  | .str .. => raiseType "sum() can't sum strings [use ''.join(seq) instead]"
  | .bytes .. => raiseType "sum() can't sum bytes [use b''.join(seq) instead]"
  | _ => foldMembers perform iteration start (binaryOperation perform .add)

/-- The greatest or least of values. -/
def extremeOf (greatest : Bool) (name : String) (args : List Value) (named : Named) :
    Run Value := do
  checkArguments name name (.counted 1 none) args []
  let given ← keyedArguments name { params := ["key", "default"], mostPlaced := 0 } [] named
  let key? := (given[0]?).join
  let default? := (given[1]?).join
  let best? ← match args with
    | [v] => extreme perform greatest key? v
    | many => do
      if default?.isSome then
        raiseType ("Cannot specify a default for " ++ name ++
          "() with multiple positional arguments")
      else extreme perform greatest key? (← newTuple many)
  match best?, default? with
  | some best, _ => return best
  | none, some v => return v
  | none, none => raise .value (name ++ "() arg is an empty sequence")

/-- The next member of an iteration, or a default. -/
def nextOrDefault (v : Value) (default? : Option Value) : Run Value := do
  match ← nextOf perform v, default? with
  | some member, _ => return member
  | none, some d => return d
  | none, none => throw (.error .ended [])

/-! ### Single functions -/

/-- The range that arguments describe. -/
def makeRange (args : List Value) : Run Value := do
  match ← args.mapM wholeArgument with
  | [stop] => newRange 0 stop 1
  | [start, stop] => newRange start stop 1
  | [start, stop, step] =>
    if step = 0 then raise .value "range() arg 3 must not be zero" else newRange start stop step
  | _ => return .nothing

/-- The slice that arguments describe. -/
def makeSlice (args : List Value) : Run Value := do
  match args with
  | [stop] => newSlice .nothing stop .nothing
  | [start, stop] => newSlice start stop .nothing
  | [start, stop, step] => newSlice start stop step
  | _ => return .nothing

/-- A power, modulo a number where one is given. -/
def powerOf (a b : Value) (modulus? : Option Value) : Run Value := do
  match modulus?.getD .nothing with
  | .nothing => binaryOperation perform .power a b
  | modulus =>
    match a.int?, b.int?, modulus.int? with
    | some x, some y, some m => powerOfInts x y m
    | _, _, _ =>
      let values := [a, b, modulus]
      if values.all (·.number?.isSome) then
        raiseType "pow() 3rd argument not allowed unless all arguments are integers"
      else if values.all fun v => (toComplex? v).isSome then raise .value "complex modulo"
      else
        raiseType ("unsupported operand type(s) for ** or pow(): '" ++ (← messageTypeOf a) ++
          "', '" ++ (← messageTypeOf b) ++ "', '" ++ (← messageTypeOf modulus) ++ "'")

/-- A number rounded to so many places. -/
def rounded (v : Value) (places? : Option Value) : Run Value := do
  if v.number?.isNone then roundedWhole v
  else
    match places? with
    | none => roundedWhole v
    | some .nothing => roundedWhole v
    | some places => roundedTo v (← wholeArgument places)

/-- The name of an attribute that an argument is. -/
def attributeName (v : Value) : Run String := do
  match v with
  | .str _ s => return s
  | v => do
    let type ← messageTypeOf v
    raiseType ("attribute name must be string, not '" ++ type ++ "'")

/-- The iteration over the results of a function up to a value that ends it. -/
def iterateCalls (f last : Value) : Run Value := do
  if f.isCallable (← get) then newIteration "callable_iterator" (.called f last)
  else raiseType "iter(v, w): v must be callable"

/-- A value written by a layout. -/
def formattedBy (v : Value) (layout? : Option Value) : Run Value := do
  match layout? with
  | none => formatted v ""
  | some layout => do formatted v (← textArgument "format" "2" layout)

/-- Members of iterations side by side. -/
def zipped (args : List Value) (named : Named) : Run Value := do
  let given ← keyedArguments "zip" { params := ["strict"], mostPlaced := 0 } [] named
  let strict ← match (given[0]?).join with
    | some v => truthOf v
    | none => pure false
  newIteration "zip" (.sideBySide strict (← args.mapM iterate))

/-- The different members of a value as a set. -/
def makeSet (frozen : Bool) (args : List Value) : Run Value := do
  match args with
  | [v] => newSet frozen (← distinctMembers perform v)
  | _ => newSet frozen []

/-- A sorted list of the members of a value. -/
def makeSorted (args : List Value) (named : Named) : Run Value := do
  checkArguments "sorted" "sorted" (.counted 1 (some 1)) args []
  match args with
  | [v] =>
    let items ← allMembers perform v
    let given ← keyedArguments "sort" { params := ["key", "reverse"], mostPlaced := 0 } [] named
    newList (← sortedBy perform (given[0]?).join (given[1]?).join items)
  | _ => return .nothing

/-! ### Calls -/

/-- The value of a function for arguments of which some may be given by name. -/
def callKeyed (b : Builtin) (given : List (Option Value)) : Run Value := do
  match b, given with
  | .int, [none, none] => newInt 0
  | .int, [none, some _] => raiseType "int() missing string argument"
  | .int, [some v, none] => toWhole v
  | .int, [some v, some base] => toWholeIn v base
  | .str, [v?, encoding?, policy?] => toText v? encoding? policy?
  | .enumerate, [some v, start?] =>
    let start ← match start? with
      | some start => wholeArgument start
      | none => pure 0
    newIteration "enumerate" (.counted (← iterate v) start)
  | .pow, [some a, some b, modulus?] => powerOf perform a b modulus?
  | .round, [some v, places?] => rounded v places?
  | .sum, [some v, start?] => sumOf perform v (start?.getD (.int .shared 0))
  | _, _ => return .nothing

/-- The value of a function for arguments given by place. -/
def callPlaced (b : Builtin) (args : List Value) : Run Value := do
  match b, args with
  | .bool, [v] => return .bool (← truthOf v)
  | .bool, _ => return .bool false
  | .float, [v] => toFloatValue v
  | .float, _ => newFloat (.zero false)
  | .list, [v] => newList (← allMembers perform v)
  | .list, _ => newList []
  | .tuple, [v@(.tuple ..)] => return v
  | .tuple, [v] => newTuple (← allMembers perform v)
  | .tuple, _ => newTuple []
  | .set, args => makeSet perform false args
  | .frozenset, [v] =>
    match ← setOf? v with
    | some (true, _) => return v
    | _ => makeSet perform true [v]
  | .frozenset, args => makeSet perform true args
  | .abs, [v] => sizeOf v
  | .all, [v] => decidedBy perform false v
  | .any, [v] => decidedBy perform true v
  | .callable, [v] => return .bool (v.isCallable (← get))
  | .chr, [v] => toCharacter v
  | .ord, [v] => toCodePoint v
  | .divmod, [a, b] => quotientAndRemainder a b
  | .filter, [f, v] => newIteration "filter" (.filtered f (← iterate v))
  | .format, v :: rest => formattedBy v rest.head?
  | .getattr, v :: name :: rest => do
    let value : Run Value := do attributeOf perform v (← attributeName name)
    match rest with
    | d :: _ => orElseOn .attribute value (return d)
    | [] => value
  | .hasattr, [v, name] =>
    let name ← attributeName name
    orElseOn .attribute (do
      let _ ← attributeOf perform v name
      return .bool true) (return .bool false)
  | .isinstance, [v, t] => return .bool (← isOfTypes v t)
  | .iter, [v] => iterate v
  | .iter, [f, last] => iterateCalls f last
  | .len, [v] => newInt (← lengthOf v)
  | .map, f :: v :: vs => newIteration "map" (.mapped f (← (v :: vs).mapM iterate))
  | .map, _ => raiseType "map() must have at least two arguments."
  | .next, v :: rest => nextOrDefault perform v rest.head?
  | .range, args => makeRange args
  | .repr, [v] => newStr (← shown v)
  | .reversed, [v] => iterateBackwards v
  | .slice, args => makeSlice args
  | .error kind, args => newObject (.error (.error kind args))
  | _, _ => return .nothing

/-- The value of a function for arguments. -/
def callBuiltin (b : Builtin) (args : List Value) (named : Named) : Run Value := do
  match b, b.rule with
  | _, .keyed k => callKeyed perform b (← keyedArguments b.name k args named)
  | .dict, _ => do
    checkArguments "dict" "dict" (.counted 0 (some 1)) args []
    let n ← newNumber (.dict {})
    fillDict perform n args named
    return .object n
  | .max, _ => extremeOf perform true "max" args named
  | .min, _ => extremeOf perform false "min" args named
  | .sorted, _ => makeSorted perform args named
  | .zip, _ => zipped args named
  | _, rule => do
    checkArguments b.name b.name rule args named
    callPlaced perform b args

end

end HtmlTemplate.Script
