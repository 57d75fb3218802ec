import HtmlTemplate.Script.Library.Functions
import HtmlTemplate.Script.Library.NumberMethods
import HtmlTemplate.Script.Library.RowMethods
import HtmlTemplate.Script.Library.BytesMethods

/-!
# The library

What every program can call: `callBuiltin` calls the functions of the library, `callMethod` the
methods of values, `callUnbound` the functions of a type, and `callHelper` the functions that a host
hands to programs.
-/

namespace HtmlTemplate.Script

/-- A parameter without a default. -/
def required (name : String) : String × Option Value := (name, none)

/-- The value of a helper for arguments. -/
def callHelper (n : Nat) (h : Helper) (args : List Value) (named : Named) : Run Value := do
  let title := match h with
    | .identity => "identity"
    | .tick _ => "tick"
    | .fail => "fail"
    | .failTemplate => "fail_template"
  let params := match h with
    | .identity => [required "v"]
    | _ => []
  let bound ← bindArguments title { params := params } args named
  match h with
  | .identity => return (bound.get? "v").getD .nothing
  | .tick count => do
    setObject n (.helper (.tick (count + 1)))
    newInt (count + 1 : Nat)
  | .fail => raise .value "helper failed"
  | .failTemplate =>
    throw (.diagnostic { problem := .runtime "helper failed" none [], hint? := some "from helper" })

section

variable (perform : Perform)

/-- The value of a method of props. -/
def callPropsMethod (v : Value) (n : Nat) (p : Props) (name : String) (args : List Value)
    (named : Named) : Run Value := do
  let params := match name with
    | "get" => [required "self", required "key", ("default", some .nothing)]
    | "_resolve" => [required "self", required "key"]
    | _ => [required "self"]
  let bound ← bindArguments ("Props." ++ name) { params := params } (v :: args) named
  let key := (bound.get? "key").getD .nothing
  match name with
  | "get" =>
    match key with
    | .str _ key =>
      if hasProp p key then readProp perform n p key
      else return (bound.get? "default").getD .nothing
    | _ => return (bound.get? "default").getD .nothing
  | "_resolve" => readPropAt perform n p key
  | _ => do
    setProps n { p with closed := true }
    return .nothing

/-- The value of the operation that a method names. -/
def callOperation (v : Value) (name : String) (args : List Value) (named : Named) : Run Value := do
  if name == "__call__" then perform _ (.call v args named)
  else
    let owner ← typeOf v
    let isDirect := (name == "__contains__" && ["dict", "set", "frozenset"].contains owner) ||
      (name == "__getitem__" && ["dict", "list"].contains owner)
    let count := if ["__len__", "__iter__", "__next__", "__str__", "__repr__"].contains name
      then 0 else 1
    checkArguments "" (owner ++ "." ++ name)
      (if isDirect then .one else .counted count (some count)) args named
    match name, args with
    | "__len__", _ => newInt (← lengthOf v)
    | "__iter__", _ => iterate v
    | "__next__", _ => nextOrDefault perform v none
    | "__str__", _ => toText (some v) none none
    | "__repr__", _ => newStr (← shown v)
    | "__contains__", [member] => return .bool (← isMember perform member v)
    | "__getitem__", [index] => access perform v index
    | "__eq__", [other] => return .bool (← equalTo v other)
    | "__ne__", [other] => return .bool !(← equalTo v other)
    | _, _ => return .nothing

/-- The value of a method. -/
def callMethod (v : Value) (name : String) (args : List Value) (named : Named) : Run Value := do
  if operationMethods.contains name then callOperation perform v name args named
  else
    match v with
    | .str _ s => callTextMethod perform v s name args named
    | .bytes _ b => callBytesMethod perform v b name args named
    | .tuple _ items => callTupleMethod items name args named
    | .range _ a b c => callRangeMethod a b c name args named
    | .slice _ a b c => callSliceMethod a b c name args named
    | .builtin .dict => callDictMethod perform 0 {} name args named
    | .builtin _ => callTextMethod perform v "" name args named
    | .object n =>
      match ← objectAt n with
      | .list items => callListMethod perform n items name args named
      | .dict t => callDictMethod perform n t name args named
      | .set frozen items => callSetMethod perform n frozen items name args named
      | .view .. => callViewMethod perform v name args named
      | .props p => callPropsMethod perform v n p name args named
      | _ => return .nothing
    | _ => callNumberMethod v name args named

/-- The value of a function of a type for arguments, the first of which is of the type. -/
def callUnbound (type name : String) (args : List Value) (named : Named) : Run Value := do
  match args with
  | [] => raiseType ("unbound method " ++ type ++ "." ++ name ++ "() needs an argument")
  | v :: args =>
    if methodOwner (← typeOf v) == type then callMethod perform v name args named
    else raiseTypeOf ("descriptor '" ++ name ++ "' for '" ++ type ++
      "' objects doesn't apply to a '") v "' object"

end

end HtmlTemplate.Script
