import HtmlTemplate.Script.SetOrder

/-!
# Views of values

What a value looks like in a world: `Value.datum` gathers everything inside it, `typeName` names its
type, `truth` says whether it counts as true, and `shown` and `textOf` write it.
-/

namespace HtmlTemplate.Script

open HtmlTemplate.Number HtmlTemplate.Text

/-- The name of a kind of errors. -/
def ErrorKind.name : ErrorKind → String
  | exception => "Exception"
  | value => "ValueError"
  | key => "KeyError"
  | index => "IndexError"
  | type => "TypeError"
  | zeroDivision => "ZeroDivisionError"
  | .attribute => "AttributeError"
  | unbound => "NameError"
  | unboundLocal => "UnboundLocalError"
  | assertion => "AssertionError"
  | runtime => "RuntimeError"
  | load => "ImportError"
  | overflow => "OverflowError"
  | ended => "StopIteration"
  | recursion => "RecursionError"
  | memory => "MemoryError"
  | lookup => "LookupError"
  | encoding => "UnicodeEncodeError"
  | decoding => "UnicodeDecodeError"
  | malformed => "SyntaxError"
  | misindented => "IndentationError"
  | mixedIndentation => "TabError"

/-- The error that a flaw in a program text is. -/
def Flaw.raised : Flaw → Raised
  | malformed => .error .malformed []
  | misindented => .error .misindented []
  | mixedIndentation => .error .mixedIndentation []
  | nullCharacter => .error .value [.text "source code string cannot contain null bytes"]
  | surrogate => .error .encoding []

/-- The kind of the error that a name has no value. -/
def Unbound.kind : Unbound → ErrorKind
  | inFunction _ => .unboundLocal
  | _ => .unbound

/-- The text of the error that a name has no value. -/
def Unbound.text : Unbound → String
  | name n => "name '" ++ n ++ "' is not defined"
  | inFunction n =>
    "cannot access local variable '" ++ n ++ "' where it is not associated with a value"
  | inEnclosing n =>
    "cannot access free variable '" ++ n ++
      "' where it is not associated with a value in enclosing scope"
  | classMaker => "__build_class__ not found"

/-- The name that has no value, or the whole text where the error does not tell the name. -/
def Unbound.subject (u : Unbound) : String :=
  match u with
  | name n => n
  | inEnclosing n => n
  | u => u.text

/-- The kind of an error. -/
def Raised.kind : Raised → ErrorKind
  | error kind _ => kind
  | unbound u => u.kind
  | diagnostic _ => .exception
  | exhausted => .recursion

/-- The name of the kind of an error. -/
def Raised.kindName : Raised → String
  | diagnostic d => d.problem.kindName
  | r => r.kind.name

/-- Whether errors of the first kind are also of the second. -/
def ErrorKind.isA (kind general : ErrorKind) : Bool :=
  general == .exception || kind == general ||
    (general == .value && (kind == .encoding || kind == .decoding))

/-- The name of a function. -/
def Builtin.name : Builtin → String
  | bool => "bool"
  | int => "int"
  | float => "float"
  | str => "str"
  | list => "list"
  | dict => "dict"
  | tuple => "tuple"
  | set => "set"
  | frozenset => "frozenset"
  | abs => "abs"
  | all => "all"
  | any => "any"
  | callable => "callable"
  | chr => "chr"
  | divmod => "divmod"
  | enumerate => "enumerate"
  | filter => "filter"
  | format => "format"
  | getattr => "getattr"
  | hasattr => "hasattr"
  | isinstance => "isinstance"
  | iter => "iter"
  | len => "len"
  | map => "map"
  | max => "max"
  | min => "min"
  | next => "next"
  | ord => "ord"
  | pow => "pow"
  | range => "range"
  | repr => "repr"
  | reversed => "reversed"
  | round => "round"
  | slice => "slice"
  | sorted => "sorted"
  | sum => "sum"
  | zip => "zip"
  | error kind => kind.name

/-- Whether a function makes values of the type that it stands for. -/
def Builtin.isType : Builtin → Bool
  | bool => true
  | int => true
  | float => true
  | str => true
  | list => true
  | dict => true
  | tuple => true
  | set => true
  | frozenset => true
  | enumerate => true
  | filter => true
  | map => true
  | range => true
  | reversed => true
  | slice => true
  | zip => true
  | error _ => true
  | _ => false

/-- All functions that every program may use. -/
def Builtin.everything : List Builtin := [
  bool, int, float, str, list, dict, tuple, set, frozenset, abs, all, any, callable, chr, divmod,
  enumerate, filter, format, getattr, hasattr, isinstance, iter, len, map, max, min, next, ord, pow,
  range, repr, reversed, round, slice, sorted, sum, zip, error .exception, error .key, error .index,
  error .type, error .value]

/-- The name of the type of an object. -/
def Object.typeName : Object → String
  | list _ => "list"
  | dict _ => "dict"
  | set frozen _ => if frozen then "frozenset" else "set"
  | record _ => "SimpleNamespace"
  | names _ => "dict"
  | closure _ => "function"
  | helper _ => "function"
  | props _ => "Props"
  | view kind _ => kind.typeName
  | iteration name _ => name
  | error r => r.kindName

/-- The object with a number. -/
def World.object (w : World) (number : Nat) : Object := (w.objects[number]?).getD (.list [])

/-- The props that a value is. -/
def Value.props? (w : World) : Value → Option Props
  | object n =>
    match w.object n with
    | .props p => some p
    | _ => none
  | _ => none

/-- The name of the type of a value. -/
def Value.typeName (w : World) : Value → String
  | nothing => "NoneType"
  | ellipsis => "ellipsis"
  | bool _ => "bool"
  | int .. => "int"
  | float .. => "float"
  | complex .. => "complex"
  | str .. => "str"
  | bytes .. => "bytes"
  | tuple .. => "tuple"
  | range .. => "range"
  | slice .. => "slice"
  | builtin b => if b.isType then "type" else "builtin_function_or_method"
  | type _ => "type"
  | unbound .. => "method_descriptor"
  | method _ receiver _ =>
    if (receiver.props? w).isSome then "method" else "builtin_function_or_method"
  | object n => (w.object n).typeName

/-- The name of the type of a value in messages. -/
def Value.messageName (w : World) (v : Value) : String :=
  match v with
  | object n =>
    match w.object n with
    | .record _ => "types.SimpleNamespace"
    | o => o.typeName
  | v => v.typeName w

/-- The text of props. -/
def Props.text (p : Props) : String :=
  let names := p.resolved.names.mergeSort fun a b => decide (a ≤ b)
  "<Props " ++ (if p.closed then "closed" else "open") ++ " resolved=" ++
    (Datum.list (names.map .str)).written ++ ">"

/-- The table of a dictionary. -/
def World.table (w : World) (dict : Nat) : Table :=
  match w.object dict with
  | .dict t => t
  | _ => {}

/-- What stands for an object inside itself. -/
def Object.againText : Object → String
  | list _ => "[...]"
  | dict _ => "\x7b...\x7d"
  | record _ => "namespace(...)"
  | set .. => "set(...)"
  | _ => "..."

/-- What tells a row of marks apart from others, as text. -/
def Mark.label : Mark → String
  | shared => "shared"
  | piece => "piece"
  | written n => "written " ++ toString n
  | own n => toString n

/-- What tells a value apart from others, as text. -/
def Value.label : Value → String
  | str m s => m.label ++ " " ++ quote s
  | int m n => m.label ++ " " ++ toString n
  | v => v.mark.label

/-- A value with everything inside it; `path` holds the objects it is inside of, and `fuel` bounds
how deep things lie. -/
def datumAt (w : World) : Nat → List Nat → Value → Datum
  | 0, _, _ => .again "..."
  | fuel + 1, path, v =>
    let go := datumAt w fuel
    match v with
    | .nothing => .nothing
    | .ellipsis => .ellipsis
    | .bool b => .bool b
    | .int _ n => .int n
    | .float m x => .float m x
    | .complex m z => .complex m z
    | .str _ s => .str s
    | .bytes _ b => .bytes b
    | .tuple _ items => .tuple (items.map (go path))
    | .range _ a b c => .range a b c
    | .slice _ a b c => .slice (go path a) (go path b) (go path c)
    | .builtin b =>
      if b.isType then .other "type" ("<class '" ++ b.name ++ "'>") .shared
      else .other "builtin_function_or_method" ("<built-in function " ++ b.name ++ ">") .shared
    | .type name => .other "type" ("<class '" ++ name ++ "'>") .shared
    | .unbound type name =>
      .other "method_descriptor" ("<method '" ++ name ++ "' of '" ++ type ++ "' objects>") .shared
    | .method _ r name =>
      let text := match r.props? w with
        | some p => "<bound method Props." ++ name ++ " of " ++ p.text ++ ">"
        | none =>
          "<built-in method " ++ name ++ " of " ++ r.typeName w ++ " object at " ++ r.label ++ ">"
      .other (v.typeName w) text .shared
    | .object n =>
      let o := w.object n
      if path.contains n then .again o.againText
      else
        let inside := n :: path
        let other (text : String) : Datum := .other o.typeName text (.own n)
        match o with
        | .list items => .list (items.map (go inside))
        | .dict t => .dict (t.entries.map fun e => (go inside e.key, go inside e.value))
        | .set frozen items => .set frozen ((listed items).map (go inside))
        | .record fields => .record (fields.map fun f => (f.1, go inside f.2))
        | .names space => .dict (space.bindings.map fun b => (.str b.1, go inside b.2))
        | .closure c => other ("<function " ++ c.name ++ ">")
        | .helper _ => other "<function>"
        | .props p => other p.text
        | .view kind d =>
          let inside := d :: inside
          .view kind (.own n) ((w.table d).entries.map fun e =>
            match kind with
            | .keys => go inside e.key
            | .values => go inside e.value
            | .items => .tuple [go inside e.key, go inside e.value])
        | .iteration name _ => other ("<" ++ name ++ " object>")
        | .error r =>
          let written (args : List String) : String := "(" ++ Datum.commaList args ++ ")"
          match r with
          | .error kind args =>
            other (kind.name ++ written (args.map fun v => (go inside v).written))
          | .unbound u => other (u.kind.name ++ written [quote u.text])
          | .diagnostic d => other (r.kindName ++ written [quote (d.text false)])
          | .exhausted =>
            other ("RecursionError" ++ written [quote "maximum recursion depth exceeded"])

/-- A value with everything inside it. -/
def Value.datum (w : World) (v : Value) : Datum := datumAt w (w.objects.size + 1000) [] v

/-- The text of an error, where errors are about others at most so deep. -/
def Raised.textAt (w : World) : Nat → Raised → String
  | 0, _ => ""
  | depth + 1, error kind args =>
    match args with
    | [] => ""
    | [v] => if kind = .key then (v.datum w).written else valueText depth v
    | vs => (Datum.tuple (vs.map (·.datum w))).written
  | _, unbound u => u.text
  | _, diagnostic d => d.text false
  | _, exhausted => "maximum recursion depth exceeded"
where
  /-- The text of what an error is about. -/
  valueText (depth : Nat) (v : Value) : String :=
    match v with
    | .str _ s => s
    | .object n =>
      match w.object n with
      | .error r => textAt w depth r
      | _ => (v.datum w).written
    | _ => (v.datum w).written

/-- The text of an error. -/
def Raised.text (w : World) (r : Raised) : String := r.textAt w (w.objects.size + 1)

/-- Whether a value counts as true. -/
def Value.truth (w : World) : Value → Bool
  | nothing => false
  | ellipsis => true
  | bool b => b
  | int _ n => n != 0
  | float _ x => !x.isZero
  | complex _ z => !z.isZero
  | str _ s => !s.isEmpty
  | bytes _ b => !b.isEmpty
  | tuple _ items => !items.isEmpty
  | range _ a b c => Datum.rangeLength a b c != 0
  | slice .. => true
  | builtin _ => true
  | type _ => true
  | unbound .. => true
  | method .. => true
  | object n =>
    match w.object n with
    | .list items => !items.isEmpty
    | .dict t => !t.entries.isEmpty
    | .set _ items => !items.isEmpty
    | .names space => !space.bindings.isEmpty
    | .view _ d => !(w.table d).entries.isEmpty
    | _ => true

/-! ### In computations -/

/-- A value with everything inside it. -/
def datumOf (v : Value) : Run Datum := return v.datum (← get)

/-- Whether a value counts as true. -/
def truthOf (v : Value) : Run Bool := return v.truth (← get)

/-- The name of the type of a value. -/
def typeOf (v : Value) : Run String := return v.typeName (← get)

/-- The name of the type of a value in messages. -/
def messageTypeOf (v : Value) : Run String := return v.messageName (← get)

/-- Raises an error of types whose message names the type of a value. -/
def raiseTypeOf {α : Type} (before : String) (v : Value) (after : String) : Run α := do
  raiseType (before ++ (← messageTypeOf v) ++ after)

/-- The table of a dictionary. -/
def tableOf (dict : Nat) : Run Table := return (← get).table dict

/-- The items of a list. -/
def listItems (number : Nat) : Run (Option (List Value)) := do
  match ← objectAt number with
  | .list items => return some items
  | _ => return none

/-- The written form of a value. -/
def shown (v : Value) : Run String := do
  let d ← datumOf v
  if d.isShowable then return d.written
  else raise .value ("Exceeds the limit (4300 digits) for integer string conversion; " ++
    "use sys.set_int_max_str_digits() to increase the limit")

/-- A value as text: texts as they are and errors by their message. -/
def textOf (v : Value) : Run String := do
  match v with
  | .str _ s => return s
  | .object n =>
    match ← objectAt n with
    | .error r => return r.text (← get)
    | _ => shown v
  | _ => shown v

/-- Whether a value can be called. -/
def Value.isCallable (w : World) : Value → Bool
  | builtin _ => true
  | type _ => true
  | unbound .. => true
  | method .. => true
  | object n =>
    match w.object n with
    | .closure _ => true
    | .helper _ => true
    | _ => false
  | _ => false

end HtmlTemplate.Script
