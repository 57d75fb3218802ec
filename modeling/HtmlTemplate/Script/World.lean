import HtmlTemplate.Diagnostic
import HtmlTemplate.Scope
import HtmlTemplate.Script.Datum
import HtmlTemplate.Script.Grammar

/-!
# Values and the world they live in

A `Value` is what expressions have for values. What can change, and what is told apart by more than
its content, is an `Object` in the `World` and reached by its number. `Run` is a computation that
reads and changes the world and may raise an error. `Value.same` tells whether two values are one
and the same.
-/

namespace HtmlTemplate.Script

open HtmlTemplate.Number

/-- Kinds of errors. -/
inductive ErrorKind
  | exception
  | value
  | key
  | index
  | type
  | zeroDivision
  | attribute
  | unbound
  | unboundLocal
  | assertion
  | runtime
  | load
  | overflow
  | ended
  | recursion
  | memory
  | lookup
  | encoding
  | decoding
  | malformed
  | misindented
  | mixedIndentation
deriving DecidableEq, Repr

/-- The functions that every program may use. -/
inductive Builtin
  | bool
  | int
  | float
  | str
  | list
  | dict
  | tuple
  | set
  | frozenset
  | abs
  | all
  | any
  | callable
  | chr
  | divmod
  | enumerate
  | filter
  | format
  | getattr
  | hasattr
  | isinstance
  | iter
  | len
  | map
  | max
  | min
  | next
  | ord
  | pow
  | range
  | repr
  | reversed
  | round
  | slice
  | sorted
  | sum
  | zip
  /-- The constructor of the errors of a kind. -/
  | error (kind : ErrorKind)
deriving DecidableEq, Repr

/-- Values. -/
inductive Value
  | nothing
  | ellipsis
  | bool (b : Bool)
  | int (mark : Mark) (n : Int)
  | float (mark : Mark) (x : Binary64)
  | complex (mark : Mark) (z : ComplexNumber)
  | str (mark : Mark) (s : String)
  | bytes (mark : Mark) (b : List UInt8)
  | tuple (mark : Mark) (items : List Value)
  | range (mark : Mark) (start stop step : Int)
  | slice (mark : Mark) (start stop step : Value)
  | builtin (b : Builtin)
  /-- A type that programs cannot name. -/
  | type (name : String)
  /-- A function of the values of a type. -/
  | unbound (type name : String)
  /-- A function of a value, with the value. -/
  | method (mark : Mark) (receiver : Value) (name : String)
  | object (number : Nat)
deriving Inhabited

namespace Value

/-- Whether two values are one and the same. -/
def same : Value → Value → Bool
  | nothing, nothing => true
  | ellipsis, ellipsis => true
  | bool a, bool b => a == b
  | int m a, int m' b => m == m' && a == b
  | float m x, float m' y => m == m' && x == y
  | complex m z, complex m' w => m == m' && z == w
  | str m a, str m' b => m == m' && a == b
  | bytes m a, bytes m' b => m == m' && a == b
  | tuple m as, tuple m' bs =>
    m == m' && (match m with
      | .own _ => true
      | _ => allSame as bs)
  | range m .., range m' .. => m == m'
  | slice m .., slice m' .. => m == m'
  | builtin a, builtin b => a == b
  | type a, type b => a == b
  | unbound t a, unbound t' b => t == t' && a == b
  | method m _ a, method m' _ b => m == m' && a == b
  | object a, object b => a == b
  | _, _ => false
where
  /-- Whether the values of two lists are the same. -/
  allSame : List Value → List Value → Bool
    | [], [] => true
    | a :: as, b :: bs => same a b && allSame as bs
    | _, _ => false

/-- What tells a value apart from others of the same content. -/
def mark : Value → Mark
  | int m _ => m
  | float m _ => m
  | complex m _ => m
  | str m _ => m
  | bytes m _ => m
  | tuple m _ => m
  | range m .. => m
  | slice m .. => m
  | method m .. => m
  | object n => .own n
  | _ => .shared

end Value

/-- How a name can have no value. -/
inductive Unbound
  /-- There is no such name. -/
  | name (name : String)
  /-- A name of a function has no value yet. -/
  | inFunction (name : String)
  /-- A name of an enclosing function has no value yet. -/
  | inEnclosing (name : String)
  /-- There is nothing that could make classes. -/
  | classMaker
deriving DecidableEq, Repr

/-- What a computation can end with instead of a value. -/
inductive Raised
  /-- An error with what it is about. -/
  | error (kind : ErrorKind) (args : List Value)
  | unbound (u : Unbound)
  /-- A problem of the template. -/
  | diagnostic (d : Diagnostic)
  /-- The limit of nested calls or of repetitions is reached. -/
  | exhausted
deriving Inhabited

/-- Functions that a host hands to programs. -/
inductive Helper
  | identity
  /-- Gives one, two, three and so on. -/
  | tick (count : Nat)
  | fail
  | failTemplate
deriving DecidableEq, Repr

/-- The frame of a function: the names that belong to it, those of the outermost frame, and the
object with the bindings. -/
structure Frame where
  own : List String
  outermost : List String := []
  number : Nat
deriving Inhabited

/-- The frames in which a name is looked up: those of functions from the inside out, and the
outermost one; and the program text that is run. -/
structure Env where
  frames : List Frame := []
  globals : Nat
  program : Nat := 0
  /-- What stands before the names of functions in messages: the functions around them. -/
  within : String := ""
deriving Inhabited

/-- A function that a program defines. -/
structure Closure where
  name : String
  params : Signature Value
  body : List Statement
  /-- The names that belong to the function. -/
  own : List String
  /-- The names that it declares to belong to the outermost frame. -/
  outermost : List String := []
  env : Env
  attributes : Bindings Value := []

/-- A comprehension that is under way: the sources of its outer clauses that are being gone
through, innermost first. -/
structure Comprehension where
  member : Expr
  value? : Option Expr
  clauses : List (Expr × Expr × List Expr)
  env : Env
  sources : List Value

/-- Values that give members one by one. -/
inductive Iteration
  | characters (rest : List Char)
  | members (rest : List Value)
  /-- So many whole numbers, one step apart. -/
  | stepping (next step : Int) (left : Nat)
  /-- The members of a list from a position on. -/
  | listed (list position : Nat)
  /-- The first so many members of a list, backwards. -/
  | backwards (list left : Nat)
  /-- The entries of a dictionary of a size; how many are left, and the number of the entry that
  was given last. -/
  | entries (view : DictView) (reverse : Bool) (dict size left : Nat) (last? : Option Nat)
  /-- The members of a set of a size that are left. -/
  | elements (set size : Nat) (rest : List Value)
  /-- The items of a value from an index on. -/
  | indexed (source : Value) (index : Nat)
  | counted (inner : Value) (number : Int)
  /-- The members of several iterations side by side; a `strict` one has equally many of each. -/
  | sideBySide (strict : Bool) (inners : List Value)
  | mapped (f : Value) (inners : List Value)
  | filtered (f : Value) (inner : Value)
  /-- The results of calls up to one that equals a value. -/
  | called (f last : Value)
  | comprehension (c : Comprehension)
  /-- The next member is being computed. -/
  | busy
  | ended

/-- An entry of a dictionary, with its number in the order of addition. -/
structure Entry where
  number : Nat
  key : Value
  value : Value
deriving Inhabited

/-- The entries of a dictionary in the order of addition, and how many were ever added. -/
structure Table where
  entries : List Entry := []
  added : Nat := 0
deriving Inhabited

/-- The keys and values of a dictionary. -/
def Table.pairs (t : Table) : List (Value × Value) := t.entries.map fun e => (e.key, e.value)

/-- Adds an entry at the end. -/
def Table.push (t : Table) (key value : Value) : Table :=
  ⟨t.entries ++ [⟨t.added, key, value⟩], t.added + 1⟩

/-- The dictionary with the given keys and values. -/
def Table.ofPairs (pairs : List (Value × Value)) : Table :=
  ⟨pairs.zipIdx.map fun (e, i) => ⟨i, e.1, e.2⟩, pairs.length⟩

/-- The attributes that a component was used with, as its scripts see them: those not read yet,
the values of those read, and the scope of the use. -/
structure Props where
  attrs : Bindings String
  resolved : Bindings Value := []
  closed : Bool := false
  scope : Scope Value

/-- The bindings of a frame in which a program runs; it has every name once. -/
structure Namespace where
  bindings : Bindings Value
  distinct : bindings.names.Nodup

namespace Namespace

/-- The namespace of bindings; of several bindings of a name the last one counts. -/
def ofBindings (b : Bindings Value) : Namespace :=
  ⟨Bindings.overlay [] b, Bindings.nodup_names_overlay (by simp [Bindings.names]) b⟩

instance : Coe (Bindings Value) Namespace := ⟨ofBindings⟩

/-- Binds a name. -/
def put (space : Namespace) (name : String) (value : Value) : Namespace :=
  ⟨space.bindings.put name value, Bindings.nodup_names_put space.distinct name value⟩

/-- Drops the binding of a name. -/
def erase (space : Namespace) (name : String) : Namespace :=
  ⟨space.bindings.erase name, Bindings.nodup_names_erase space.distinct name⟩

end Namespace

/-- Values that can change or are told apart by more than their content. -/
inductive Object
  | list (items : List Value)
  | dict (table : Table)
  | set (frozen : Bool) (items : List Value)
  | record (fields : Bindings Value)
  | names (space : Namespace)
  | closure (c : Closure)
  | helper (h : Helper)
  | props (p : Props)
  | view (view : DictView) (dict : Nat)
  | iteration (name : String) (i : Iteration)
  | error (raised : Raised)

/-- Programs that have been read before, most recently used first. -/
structure ProgramCache where
  entries : List ((String × ReadMode) × Program × Nat) := []
  /-- The most programs to keep, if there is a limit. -/
  limit? : Option Nat := some 1024
  hits : Nat := 0
  misses : Nat := 0
  /-- Each program is what its text is read as. -/
  faithful : ∀ entry ∈ entries, readProgram entry.1.2 entry.1.1 = .ok entry.2.1 := by simp

namespace ProgramCache

/-- The cache before any program has been read. -/
def empty : ProgramCache := {}

/-- Reads a program text, unless that has been done before. Each program that is read has a number
of its own. -/
def read (c : ProgramCache) (mode : ReadMode) (source : String) :
    Except Flaw (Program × Nat) × ProgramCache :=
  match found : c.entries.find? (·.1 == (source, mode)) with
  | some entry =>
    (.ok entry.2, { c with
      entries := entry :: c.entries.filter (·.1 != entry.1), hits := c.hits + 1
      faithful := by
        intro e mem
        rcases List.mem_cons.1 mem with rfl | mem
        · exact c.faithful e (List.mem_of_find?_eq_some found)
        · exact c.faithful e (List.mem_filter.1 mem).1 })
  | none =>
    let c := { c with misses := c.misses + 1 }
    match reading : readProgram mode source with
    | .error flaw => (.error flaw, c)
    | .ok program =>
      let entries := ((source, mode), program, c.misses) :: c.entries
      have faithful : ∀ entry ∈ entries, readProgram entry.1.2 entry.1.1 = .ok entry.2.1 := by
        intro e mem
        rcases List.mem_cons.1 mem with rfl | mem
        · exact reading
        · exact c.faithful e mem
      (.ok (program, c.misses), { c with
        entries := match c.limit? with
          | some limit => entries.take limit
          | none => entries
        faithful := by
          intro e mem
          split at mem
          · exact faithful e (List.mem_of_mem_take mem)
          · exact faithful e mem })

end ProgramCache

/-- All objects, and what else computations depend on. -/
structure World where
  objects : Array Object := #[]
  /-- The number of marks that have been given out. -/
  marks : Nat := 0
  /-- The dictionary of the functions that programs may use. -/
  library : Nat := 0
  /-- How many calls of functions that programs define are under way. -/
  depth : Nat := 0
  /-- The errors that are being handled, innermost first. -/
  handling : List Raised := []
  cache : ProgramCache := .empty
  /-- The program texts that were to be run, the last one first; one may be missing. -/
  calls : List (ReadMode × Option String) := []

/-- Computations. -/
abbrev Run := ExceptT Raised (StateM World)

/-! ### Making values -/

/-- A text value of which there is only one for each text. -/
def Value.text (s : String) : Value := .str .shared s

section

variable {α : Type}

/-- Raises an error with a text. -/
def raise (kind : ErrorKind) (text : String) : Run α :=
  throw (.error kind [.text text])

/-- Raises an error of types that do not fit. -/
def raiseType (text : String) : Run α := raise .type text

/-- Raises the error that a number is too large. -/
def raiseOverflow (text : String) : Run α := raise .overflow text

end

/-- A mark that no other value has. -/
def freshMark : Run Mark :=
  modifyGet fun w => (.own w.marks, { w with marks := w.marks + 1 })

/-- A whole number; small ones exist only once. -/
def newInt (n : Int) : Run Value := do
  if -5 ≤ n ∧ n ≤ 256 then return .int .shared n else return .int (← freshMark) n

/-- A floating-point number. -/
def newFloat (x : Binary64) : Run Value := return .float (← freshMark) x

/-- A complex number. -/
def newComplex (z : ComplexNumber) : Run Value := return .complex (← freshMark) z

/-- Whether a text exists only once: the empty one and those of one early character. -/
def isSingular (s : String) : Bool :=
  match s.toList with
  | [] => true
  | [c] => c.toNat < 256
  | _ => false

/-- The letters that are kept twice: as names and written texts, and as pieces of other texts. -/
def lettersKeptTwice : List Char := "BCLST_abcdefhijklmnopqrstvwxy".toList

/-- A text. -/
def newStr (s : String) : Run Value := do
  if isSingular s then
    return .str (if s.toList.any lettersKeptTwice.contains then .piece else .shared) s
  else return .str (← freshMark) s

/-- A row of bytes. -/
def newBytes (b : List UInt8) : Run Value := do
  if b.length ≤ 1 then return .bytes .shared b else return .bytes (← freshMark) b

/-- A tuple. -/
def newTuple (items : List Value) : Run Value := do
  if items.isEmpty then return .tuple .shared [] else return .tuple (← freshMark) items

/-- A range. -/
def newRange (start stop step : Int) : Run Value :=
  return .range (← freshMark) start stop step

/-- Adds an object and gives its number. -/
def newNumber (o : Object) : Run Nat :=
  modifyGet fun w => (w.objects.size, { w with objects := w.objects.push o })

/-- Adds an object. -/
def newObject (o : Object) : Run Value := return .object (← newNumber o)

/-- A list. -/
def newList (items : List Value) : Run Value := newObject (.list items)

/-- A dictionary. -/
def newDict (pairs : List (Value × Value)) : Run Value := newObject (.dict (.ofPairs pairs))

/-- A set. -/
def newSet (frozen : Bool) (items : List Value) : Run Value := newObject (.set frozen items)

/-- A slice. -/
def newSlice (start stop step : Value) : Run Value := return .slice (← freshMark) start stop step

/-- An iteration. -/
def newIteration (name : String) (i : Iteration) : Run Value := newObject (.iteration name i)

/-- The object with a number. -/
def objectAt (number : Nat) : Run Object := do
  return ((← get).objects[number]?).getD (.list [])

/-- Changes the object with a number. -/
def setObject (number : Nat) (o : Object) : Run Unit :=
  modify fun w => { w with objects := w.objects.setIfInBounds number o }

/-- A function of the host; those that always do the same exist only once. -/
def newHelper (h : Helper) : Run Value := do
  let known? := (← get).objects.findIdx? fun o => match o with
    | .helper .fail => h == .fail
    | .helper .failTemplate => h == .failTemplate
    | _ => false
  match known? with
  | some n => return .object n
  | none => newObject (.helper h)

end HtmlTemplate.Script
