import HtmlTemplate.Script.Library.Conversion

/-!
# Attributes

The attributes of values. `methodRules` lists the methods of each type with the arguments they take;
`attributeOf` reads an attribute, `setAttribute` and `removeAttribute` change those of values that
have room for them, and `isOfTypes` tells the type of a value.
-/

namespace HtmlTemplate.Script

/-! ### Methods -/

/-- Methods that take the same arguments. -/
def methodsWith (rule : ArgumentRule) (names : List String) : List (String × ArgumentRule) :=
  names.map (·, rule)

/-- Parameters that may all be given by place or by name. -/
def keyedBy (params : List String) : ArgumentRule := .keyed { params := params }

/-- The methods of texts. -/
def textMethods : List (String × ArgumentRule) :=
  methodsWith .none ["capitalize", "casefold", "isalnum", "isalpha", "isascii", "isdecimal",
    "isdigit", "isidentifier", "islower", "isnumeric", "isprintable", "isspace", "istitle",
    "isupper", "lower", "swapcase", "title", "upper"] ++
  methodsWith .one ["format_map", "join", "partition", "removeprefix", "removesuffix", "rpartition",
    "translate", "zfill"] ++
  methodsWith (.counted 1 (some 2)) ["center", "ljust", "rjust"] ++
  methodsWith (.counted 0 (some 1)) ["strip", "lstrip", "rstrip"] ++
  methodsWith (.parsed 1 (some 3)) ["count", "endswith", "find", "index", "rfind", "rindex",
    "startswith"] ++
  [("replace", .counted 2 (some 3)), ("maketrans", .counted 1 (some 3)), ("format", .free),
    ("encode", keyedBy ["encoding", "errors"]), ("expandtabs", keyedBy ["tabsize"]),
    ("split", keyedBy ["sep", "maxsplit"]), ("rsplit", keyedBy ["sep", "maxsplit"]),
    ("splitlines", keyedBy ["keepends"])]

/-- The methods of rows of bytes. -/
def bytesMethods : List (String × ArgumentRule) :=
  methodsWith .none ["capitalize", "isalnum", "isalpha", "isascii", "isdigit", "islower", "isspace",
    "istitle", "isupper", "lower", "swapcase", "title", "upper"] ++
  methodsWith .one ["fromhex", "join", "partition", "removeprefix", "removesuffix", "rpartition",
    "zfill"] ++
  methodsWith (.counted 1 (some 2)) ["center", "ljust", "rjust"] ++
  methodsWith (.counted 0 (some 1)) ["strip", "lstrip", "rstrip"] ++
  methodsWith (.parsed 1 (some 3)) ["count", "endswith", "find", "index", "rfind", "rindex",
    "startswith"] ++
  [("replace", .counted 2 (some 3)), ("decode", keyedBy ["encoding", "errors"]),
    ("hex", keyedBy ["sep", "bytes_per_sep"]), ("expandtabs", keyedBy ["tabsize"]),
    ("split", keyedBy ["sep", "maxsplit"]), ("rsplit", keyedBy ["sep", "maxsplit"]),
    ("splitlines", keyedBy ["keepends"])]

/-- The methods of lists. -/
def listMethods : List (String × ArgumentRule) :=
  methodsWith .none ["clear", "copy", "reverse"] ++
  methodsWith .one ["append", "count", "extend", "remove"] ++
  [("index", .counted 1 (some 3)), ("insert", .counted 2 (some 2)), ("pop", .counted 0 (some 1)),
    ("sort", .keyed { params := ["key", "reverse"], mostPlaced := 0 })]

/-- The methods of dictionaries. -/
def dictMethods : List (String × ArgumentRule) :=
  methodsWith .none ["clear", "copy", "items", "keys", "popitem", "values"] ++
  methodsWith (.counted 1 (some 2)) ["fromkeys", "get", "pop", "setdefault"] ++ [("update", .free)]

/-- The methods of sets of either kind. -/
def setMethods : List (String × ArgumentRule) :=
  ("copy", .none) ::
  methodsWith .one ["isdisjoint", "issubset", "issuperset", "symmetric_difference"] ++
  methodsWith (.parsed 0 none) ["difference", "intersection", "union"]

/-- The methods of sets that can change. -/
def changingSetMethods : List (String × ArgumentRule) :=
  methodsWith .none ["clear", "pop"] ++
  methodsWith .one ["add", "discard", "remove", "symmetric_difference_update"] ++
  methodsWith (.parsed 0 none) ["difference_update", "intersection_update", "update"]

/-- The methods of the values of a type. -/
def methodRules : String → List (String × ArgumentRule)
  | "str" => textMethods
  | "bytes" => bytesMethods
  | "list" => listMethods
  | "tuple" => [("count", .one), ("index", .counted 1 (some 3))]
  | "range" => methodsWith .one ["count", "index"]
  | "slice" => [("indices", .one)]
  | "dict" => dictMethods
  | "set" => setMethods ++ changingSetMethods
  | "frozenset" => setMethods
  | "dict_keys" => [("isdisjoint", .one)]
  | "dict_items" => [("isdisjoint", .one)]
  | "int" =>
    methodsWith .none ["as_integer_ratio", "bit_count", "bit_length", "conjugate"]
  | "float" => methodsWith .none ["as_integer_ratio", "conjugate", "hex", "is_integer"]
  | "complex" => methodsWith .none ["conjugate"]
  | "Props" => methodsWith .free ["get", "_close", "_resolve"]
  | _ => []

/-- The type that the methods of a type come from. -/
def methodOwner (type : String) : String := if type == "bool" then "int" else type

/-- The arguments that a method of a type takes, when there is such a method. -/
def methodRule? (type name : String) : Option ArgumentRule :=
  (methodRules (methodOwner type)).lookup name

/-- The methods that belong to a type rather than to its values. -/
def isTypeMethod (type name : String) : Bool :=
  (type == "dict" && name == "fromkeys") || (type == "str" && name == "maketrans") ||
    (type == "bytes" && name == "fromhex")

/-- The methods by which the operations of the language are named. -/
def operationMethods : List String :=
  ["__len__", "__iter__", "__next__", "__contains__", "__getitem__", "__str__", "__repr__", "__eq__",
    "__ne__", "__call__"]

/-- Whether a value has the method that names an operation. -/
def hasOperation (v : Value) (name : String) : Run Bool := do
  let object? ← match v with
    | .object n => pure (some (← objectAt n))
    | _ => pure none
  let isRow := match v with
    | .str .. => true
    | .bytes .. => true
    | .tuple .. => true
    | .range .. => true
    | _ => false
  let holdsMembers := isRow || match object? with
    | some (.list _) => true
    | some (.dict _) => true
    | some (.set ..) => true
    | some (.view ..) => true
    | _ => false
  let isIteration := match object? with
    | some (.iteration ..) => true
    | _ => false
  let isProps := match object? with
    | some (.props _) => true
    | _ => false
  let isReadByKey := isRow || isProps || match object? with
    | some (.list _) => true
    | some (.dict _) => true
    | _ => false
  let isView := match object? with
    | some (.view .values _) => true
    | _ => false
  match name with
  | "__len__" => return holdsMembers
  | "__iter__" => return holdsMembers || isIteration
  | "__next__" => return isIteration
  | "__contains__" => return (holdsMembers && !isView) || isProps
  | "__getitem__" => return isReadByKey
  | "__call__" => return v.isCallable (← get)
  | name => return operationMethods.contains name

/-! ### Reading -/

/-- The value that stands for a type. -/
def typeValue (v : Value) : Run Value := do
  let name ← messageTypeOf v
  match v with
  | .object n =>
    match ← objectAt n with
    | .error (.diagnostic _) => return .type name
    | .error r => return .builtin (.error r.kind)
    | _ => pure ()
  | _ => pure ()
  match Builtin.everything.find? fun b => b.isType && b.name == name with
  | some b => return .builtin b
  | none => return .type name

/-- Raises the error that a value has no attribute of a name. -/
def raiseMissingAttribute {α : Type} (v : Value) (name : String) : Run α := do
  raise .attribute ("'" ++ (← messageTypeOf v) ++ "' object has no attribute '" ++ name ++ "'")

/-- An attribute of an error. -/
def errorAttribute (r : Raised) (name : String) : Run (Option Value) := do
  match r, name with
  | .error _ args, "args" => return some (← newTuple args)
  | .error .ended args, "value" => return some (args.headD .nothing)
  | .unbound u, "args" => return some (← newTuple [← newStr u.text])
  | .unbound u, "name" =>
    match u with
    | .name n => return some (.text n)
    | .inEnclosing n => return some (.text n)
    | _ => return some .nothing
  | .diagnostic d, "args" => return some (← newTuple [← newStr (d.text false)])
  | .diagnostic d, "message" => return some (← newStr (d.problem.message false))
  | .diagnostic d, "hint" =>
    match d.hint? with
    | some hint => return some (← newStr hint)
    | none => return some .nothing
  | .diagnostic d, "component_stack" => return some (← newList (← d.stack.mapM newStr))
  | .exhausted, "args" => return some (← newTuple [← newStr "maximum recursion depth exceeded"])
  | _, _ => return none

/-- An attribute of a type. -/
def typeAttribute (v : Value) (type name : String) : Run Value := do
  if name == "__name__" || name == "__qualname__" then newStr type
  else if isTypeMethod type name then return .method .shared v name
  else if (methodRule? type name).isSome then return .unbound (methodOwner type) name
  else raise .attribute ("type object '" ++ type ++ "' has no attribute '" ++ name ++ "'")

/-- A part of a number by its name. -/
def numberPart (v : Value) (name : String) : Run (Option Value) := do
  match v, name with
  | .float .., "real" => return some v
  | .float .., "imag" => return some (← newFloat (.zero false))
  | .float .., _ => return none
  | .complex _ z, "real" => return some (← newFloat z.re)
  | .complex _ z, "imag" => return some (← newFloat z.im)
  | _, _ =>
    match v.int?, name with
    | some n, "real" => return some (← wholePart n)
    | some n, "numerator" => return some (← wholePart n)
    | some _, "imag" => return some (← newInt 0)
    | some _, "denominator" => return some (← newInt 1)
    | _, _ => return none
where
  /-- The number itself, as a whole number. -/
  wholePart (n : Int) : Run Value := do
    match v with
    | .int .. => return v
    | _ => newInt n

/-- Attributes other than methods. -/
def partOf (v : Value) (name : String) : Run (Option Value) := do
  match v, name with
  | _, "__class__" => return some (← typeValue v)
  | .range _ a _ _, "start" => return some (← newInt a)
  | .range _ _ b _, "stop" => return some (← newInt b)
  | .range _ _ _ c, "step" => return some (← newInt c)
  | .slice _ a _ _, "start" => return some a
  | .slice _ _ b _, "stop" => return some b
  | .slice _ _ _ c, "step" => return some c
  | .builtin b, "__name__" => return some (.text b.name)
  | .unbound _ f, "__name__" => return some (.text f)
  | .method _ _ f, "__name__" => return some (.text f)
  | .method _ r _, "__self__" => return some r
  | .object n, _ =>
    match ← objectAt n with
    | .record fields => return fields.get? name
    | .closure c =>
      match c.attributes.get? name with
      | some v => return some v
      | none =>
        if name == "__name__" then return some (.text c.name)
        else if name == leadingTextName then
          return some (match leadingText? c.body with
            | some s => .text s
            | none => .nothing)
        else return none
    | .error r => errorAttribute r name
    | .props p =>
      if name == "_closed" then return some (.bool p.closed)
      else if name == "_resolved" then
        return some (← newDict (p.resolved.map fun b => (.text b.1, b.2)))
      else return none
    | _ => return none
  | _, _ => numberPart v name

/-- The value of an attribute. -/
def attributeOf (perform : Perform) (v : Value) (name : String) : Run Value := do
  match ← partOf v name with
  | some part => return part
  | none =>
    match v with
    | .builtin b =>
      if b.isType then typeAttribute v b.name name else raiseMissingAttribute v name
    | .type type => typeAttribute v type name
    | _ =>
      if (methodRule? (← typeOf v) name).isSome then return .method (← freshMark) v name
      else if ← hasOperation v name then return .method (← freshMark) v name
      else
        match v with
        | .object n =>
          match ← objectAt n with
          | .props p =>
            if name.startsWith "_" then raise .attribute name else readProp perform n p name
          | _ => raiseMissingAttribute v name
        | _ => raiseMissingAttribute v name

/-! ### Change -/

/-- Refuses to change an attribute of a value. -/
def refuseAttribute (v : Value) (name : String) : Run Unit := do
  let onType (type : String) : Run Unit :=
    raiseType ("cannot set '" ++ name ++ "' attribute of immutable type '" ++ type ++ "'")
  match v with
  | .builtin b => if b.isType then onType b.name else raiseMissingAttribute v name
  | .type type => onType type
  | _ =>
    let type ← messageTypeOf v
    if (methodRule? type name).isSome then
      raise .attribute ("'" ++ type ++ "' object attribute '" ++ name ++ "' is read-only")
    else
      match v, ← partOf v name with
      | .range .., some _ => raise .attribute "readonly attribute"
      | .slice .., some _ => raise .attribute "readonly attribute"
      | _, some _ => raise .attribute ("attribute '" ++ name ++ "' of '" ++ methodOwner type ++
        "' objects is not writable")
      | _, none => raiseMissingAttribute v name

/-- Sets an attribute. -/
def setAttribute (v : Value) (name : String) (value : Value) : Run Unit := do
  match v with
  | .object n =>
    match ← objectAt n with
    | .record fields => setObject n (.record (fields.put name value))
    | .closure c =>
      setObject n (.closure { c with attributes := Bindings.put c.attributes name value })
    | _ => refuseAttribute v name
  | _ => refuseAttribute v name

/-- Removes an attribute. -/
def removeAttribute (v : Value) (name : String) : Run Unit := do
  match v with
  | .object n =>
    match ← objectAt n with
    | .record fields =>
      if fields.has name then setObject n (.record (fields.erase name))
      else raiseMissingAttribute v name
    | .closure c =>
      if Bindings.has c.attributes name then
        setObject n (.closure { c with attributes := Bindings.erase c.attributes name })
      else raiseMissingAttribute v name
    | _ => refuseAttribute v name
  | _ => refuseAttribute v name

/-! ### Types -/

/-- The message that a value is no type. -/
def noTypeMessage : String := "isinstance() arg 2 must be a type, a tuple of types, or a union"

/-- Whether a value is of a type. -/
def isOfType (v type : Value) : Run Bool := do
  match type with
  | .builtin (.error general) =>
    match v with
    | .object n =>
      match ← objectAt n with
      | .error (.diagnostic _) => return general == .exception
      | .error r => return r.kind.isA general
      | _ => return false
    | _ => return false
  | .builtin b =>
    if b.isType then
      let name ← typeOf v
      return name == b.name || (name == "bool" && b == .int)
    else raiseType noTypeMessage
  | .type name => return (← messageTypeOf v) == name
  | _ => raiseType noTypeMessage

/-- Whether a value is of a type or of one of the types in a tuple. -/
def isOfTypes (v : Value) : Value → Run Bool
  | .tuple _ types => anyOf types
  | type => isOfType v type
where
  /-- Whether a value is of one of several types. -/
  anyOf : List Value → Run Bool
    | [] => return false
    | t :: ts => do
      if ← isOfTypes v t then return true else anyOf ts

end HtmlTemplate.Script
