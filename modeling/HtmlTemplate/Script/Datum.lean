import HtmlTemplate.Number.ComplexNumber
import HtmlTemplate.Script.Program
import HtmlTemplate.Text.Quoted
import HtmlTemplate.Text.Surrogate

/-!
# Data

A `Datum` is a value of the expression language with everything inside it, cut loose from the store
that changeable values live in. `Datum.equal` is equality as the language has it, where numbers of
all kinds compare by value; `Datum.strictEqual` is the finer equality that picks a case of a switch.
`Datum.written` writes a datum as the expression that denotes it.
-/

namespace HtmlTemplate.Script

open HtmlTemplate.Number HtmlTemplate.Text

/-- What tells apart two values of the same content: the values that the language keeps only once
are `shared`, those that a program text writes down belong to the text, and all others have a number
of their own. Letters that are pieces of other texts can differ from the same letters as names. -/
inductive Mark
  | shared
  | piece
  | written (program : Nat)
  | own (number : Nat)
deriving DecidableEq, Repr

/-- Views of a dictionary. -/
inductive DictView
  | keys
  | values
  | items
deriving DecidableEq, Repr

/-- The name of the type of a view. -/
def DictView.typeName : DictView → String
  | keys => "dict_keys"
  | values => "dict_values"
  | items => "dict_items"

/-- A value with everything inside it. -/
inductive Datum
  | nothing
  | ellipsis
  | bool (b : Bool)
  | int (n : Int)
  | float (mark : Mark) (x : Binary64)
  | complex (mark : Mark) (z : ComplexNumber)
  | str (s : String)
  | bytes (bytes : List UInt8)
  | list (items : List Datum)
  | tuple (items : List Datum)
  | set (frozen : Bool) (items : List Datum)
  | dict (entries : List (Datum × Datum))
  | range (start stop step : Int)
  | slice (start stop step : Datum)
  | record (fields : List (String × Datum))
  /-- A view of a dictionary, with what tells it apart. -/
  | view (kind : DictView) (mark : Mark) (items : List Datum)
  /-- A value without visible content: its type, its written form and what tells it apart. -/
  | other (type text : String) (mark : Mark)
  /-- A value inside itself. -/
  | again (text : String)
deriving Inhabited

namespace Datum

/-! ### Kinds -/

/-- The name of the type of a value. -/
def typeName : Datum → String
  | nothing => "NoneType"
  | ellipsis => "ellipsis"
  | bool _ => "bool"
  | int _ => "int"
  | float .. => "float"
  | complex .. => "complex"
  | str _ => "str"
  | bytes _ => "bytes"
  | list _ => "list"
  | tuple _ => "tuple"
  | set frozen _ => if frozen then "frozenset" else "set"
  | dict _ => "dict"
  | range .. => "range"
  | slice .. => "slice"
  | record _ => "SimpleNamespace"
  | view kind _ _ => kind.typeName
  | other type _ _ => type
  | again _ => "list"

/-- The name of the type of a value in messages. -/
def messageName (d : Datum) : String :=
  match d with
  | record _ => "types.SimpleNamespace"
  | d => d.typeName

/-- The number of a number; truth values count as zero and one. -/
def number? : Datum → Option (Sum Int Binary64)
  | bool b => some (.inl b.toNat)
  | int n => some (.inl n)
  | float _ x => some (.inr x)
  | _ => none

/-- Whether a value is a number of any kind. -/
def isNumber : Datum → Bool
  | complex .. => true
  | d => d.number?.isSome

/-- The real number that a value equals, when there is one. -/
def real? : Datum → Option (Sum Int Binary64)
  | complex _ z => if z.im.isZero then some (.inr z.re) else none
  | d => d.number?

/-- Equality of numbers by value. -/
def numbersEqual : Sum Int Binary64 → Sum Int Binary64 → Bool
  | .inl m, .inl n => m == n
  | .inl m, .inr y => y.equalInt m
  | .inr x, .inl n => x.equalInt n
  | .inr x, .inr y => x.equal y

/-- Order of numbers by value. -/
def numbersLess : Sum Int Binary64 → Sum Int Binary64 → Bool
  | .inl m, .inl n => m < n
  | .inl m, .inr y => Binary64.intLess m y
  | .inr x, .inl n => x.lessInt n
  | .inr x, .inr y => x.less y

/-- The number of members of a range. -/
def rangeLength (start stop step : Int) : Nat :=
  if 0 < step then ((stop - start + step - 1) / step).toNat
  else if step < 0 then ((start - stop - step - 1) / (-step)).toNat
  else 0

/-- Equality of ranges by their members. -/
def rangesEqual (a b c a' b' c' : Int) : Bool :=
  let n := rangeLength a b c
  n == rangeLength a' b' c' && (n == 0 || (a == a' && (n == 1 || c == c')))

/-- The members of a value that is compared as a set. -/
def setMembers? : Datum → Option (List Datum)
  | set _ items => some items
  | view .keys _ items => some items
  | view .items _ items => some items
  | _ => none

/-- Whether two numbers with marks are one and the same value. -/
def sameMarked {α : Type} [BEq α] (m : Mark) (x : α) (m' : Mark) (y : α) : Bool :=
  m == m' && m != .shared && x == y

/-! ### Equality -/

mutual

/-- Equality of values. When `inside`, a value that is not a number is equal to itself, as members
of other values are. -/
def equalAt (inside : Bool) : Datum → Datum → Bool
  | nothing, nothing => true
  | ellipsis, ellipsis => true
  | bool a, b => (b.real?).any (numbersEqual (.inl a.toNat))
  | int a, b => (b.real?).any (numbersEqual (.inl a))
  | float m x, b =>
    (match b with
      | float m' y => inside && sameMarked m x m' y
      | _ => false) || (b.real?).any (numbersEqual (.inr x))
  | complex m z, b =>
    match b with
    | complex m' w => (inside && sameMarked m z m' w) || z.equal w
    | _ => z.im.isZero && (b.number?).any (numbersEqual (.inr z.re))
  | str a, str b => a == b
  | bytes a, bytes b => a == b
  | list as, list bs => membersEqual as bs
  | tuple as, tuple bs => membersEqual as bs
  | set _ as, b => (b.setMembers?).any fun bs => as.length == bs.length && membersIn as bs
  | dict as, dict bs => as.length == bs.length && entriesIn as bs
  | range a b c, range a' b' c' => rangesEqual a b c a' b' c'
  | slice a b c, slice a' b' c' => equalAt true a a' && equalAt true b b' && equalAt true c c'
  | record as, record bs => as.length == bs.length && fieldsIn as bs
  | view .values m _, view .values m' _ => m == m'
  | view .values .., _ => false
  | view _ _ as, b => (b.setMembers?).any fun bs => as.length == bs.length && membersIn as bs
  | other t x m, other t' x' m' => t == t' && x == x' && m == m'
  | again a, again b => a == b
  | _, _ => false
termination_by structural a => a

/-- Equality member by member. -/
def membersEqual : List Datum → List Datum → Bool
  | [], [] => true
  | a :: as, b :: bs => equalAt true a b && membersEqual as bs
  | _, _ => false
termination_by structural as => as

/-- Whether all values of one list are in another. -/
def membersIn : List Datum → List Datum → Bool
  | [], _ => true
  | a :: as, bs => bs.any (equalAt true a) && membersIn as bs
termination_by structural as => as

/-- Whether all entries of one dictionary are in another. -/
def entriesIn : List (Datum × Datum) → List (Datum × Datum) → Bool
  | [], _ => true
  | (k, v) :: es, bs =>
    bs.any (fun e => equalAt true k e.1 && equalAt true v e.2) && entriesIn es bs
termination_by structural es => es

/-- Whether all fields of one record are in another. -/
def fieldsIn : List (String × Datum) → List (String × Datum) → Bool
  | [], _ => true
  | (k, v) :: es, bs => bs.any (fun e => k == e.1 && equalAt true v e.2) && fieldsIn es bs
termination_by structural es => es

end

/-- Equality of values. -/
def equal (a b : Datum) : Bool := equalAt false a b

/-- Equality of values where each value is equal to itself. -/
def alike (a b : Datum) : Bool := equalAt true a b

/-- Equality without a change of type: numbers compare by value but are never equal to a truth
value, and all other values are equal only within their type. -/
def strictEqual : Datum → Datum → Bool
  | bool a, bool b => a == b
  | bool _, _ => false
  | _, bool _ => false
  | a, b =>
    if a.isNumber && b.isNumber then alike a b
    else a.typeName == b.typeName && alike a b

/-! ### Order -/

/-- An order of two values of which it is known which is less and whether they are equal. -/
def ordered (o : Order) (less equal more : Bool) : Bool :=
  match o with
  | .lt => less
  | .le => less || equal
  | .gt => more
  | .ge => more || equal

/-- Whether numbers are in an order; none is for what is not a number. -/
def numbersOrdered (o : Order) (x y : Sum Int Binary64) : Bool :=
  ordered o (numbersLess x y) (numbersEqual x y) (numbersLess y x)

/-- Whether sets are in an order, which is inclusion. -/
def setsOrdered (o : Order) (as bs : List Datum) : Bool :=
  match o with
  | .lt => as.length < bs.length && membersIn as bs
  | .le => as.length ≤ bs.length && membersIn as bs
  | .gt => bs.length < as.length && membersIn bs as
  | .ge => bs.length ≤ as.length && membersIn bs as

/-- The sign of an order. -/
def orderSign : Order → String
  | .lt => "<"
  | .le => "<="
  | .gt => ">"
  | .ge => ">="

/-- The message that there is no order between two values. -/
def orderMessage (o : Order) (a b : Datum) : String :=
  "'" ++ orderSign o ++ "' not supported between instances of '" ++ a.messageName ++ "' and '" ++
    b.messageName ++ "'"

mutual

/-- Whether values are in an order, or the message that there is none between them. -/
def inOrder (o : Order) : Datum → Datum → Except String Bool
  | str a, b => match b with
    | str b => .ok (ordered o (precedes a.toList b.toList) (a == b) (precedes b.toList a.toList))
    | _ => .error (orderMessage o (str a) b)
  | bytes a, b => match b with
    | bytes b => .ok (ordered o (decide (a < b)) (a == b) (decide (b < a)))
    | _ => .error (orderMessage o (bytes a) b)
  | list as, b => match b with
    | list bs => inOrderList o as bs
    | _ => .error (orderMessage o (list as) b)
  | tuple as, b => match b with
    | tuple bs => inOrderList o as bs
    | _ => .error (orderMessage o (tuple as) b)
  | slice a b c, d => match d with
    | slice a' b' c' =>
      if !alike a a' then inOrder o a a'
      else if !alike b b' then inOrder o b b'
      else if !alike c c' then inOrder o c c'
      else .ok (ordered o false true false)
    | _ => .error (orderMessage o (slice a b c) d)
  | a, b => match a.number?, b.number? with
    | some x, some y => .ok (numbersOrdered o x y)
    | _, _ => match a.setMembers?, b.setMembers? with
      | some as, some bs => .ok (setsOrdered o as bs)
      | _, _ => .error (orderMessage o a b)

/-- Whether lists are in an order, which the first members that differ decide. -/
def inOrderList (o : Order) : List Datum → List Datum → Except String Bool
  | [], bs => .ok (ordered o (!bs.isEmpty) bs.isEmpty false)
  | _ :: _, [] => .ok (ordered o false false true)
  | a :: as, b :: bs => if alike a b then inOrderList o as bs else inOrder o a b

end

/-! ### Written form -/

/-- The most digits with which a whole number is written. -/
def digitLimit : Nat := 4300

mutual

/-- Whether all whole numbers inside a value have few enough digits to be written. -/
def isShowable : Datum → Bool
  | int n => n.natAbs < Nat.pow 10 digitLimit
  | list xs => areShowable xs
  | tuple xs => areShowable xs
  | set _ xs => areShowable xs
  | dict es => entriesShowable es
  | slice a b c => isShowable a && isShowable b && isShowable c
  | record fs => fieldsShowable fs
  | view _ _ xs => areShowable xs
  | _ => true

def areShowable : List Datum → Bool
  | [] => true
  | x :: xs => isShowable x && areShowable xs

def entriesShowable : List (Datum × Datum) → Bool
  | [] => true
  | (k, v) :: es => isShowable k && isShowable v && entriesShowable es

def fieldsShowable : List (String × Datum) → Bool
  | [] => true
  | (_, v) :: es => isShowable v && fieldsShowable es

end

/-- Texts set apart by commas. -/
def commaList (texts : List String) : String := String.intercalate ", " texts

mutual

/-- The written form of a value. -/
def written : Datum → String
  | nothing => "None"
  | ellipsis => "Ellipsis"
  | bool b => if b then "True" else "False"
  | int n => toString n
  | float _ x => floatText x
  | complex _ z => z.text
  | str s => quote s
  | bytes b => quoteBytes b
  | list xs => "[" ++ commaList (writtenAll xs) ++ "]"
  | tuple xs =>
    match writtenAll xs with
    | [x] => "(" ++ x ++ ",)"
    | texts => "(" ++ commaList texts ++ ")"
  | set frozen xs =>
    let texts := writtenAll xs
    let body := if texts.isEmpty then "" else "\x7b" ++ commaList texts ++ "\x7d"
    if frozen then "frozenset(" ++ body ++ ")" else if texts.isEmpty then "set()" else body
  | dict es => "\x7b" ++ commaList (writtenEntries es) ++ "\x7d"
  | range a b c =>
    "range(" ++ toString a ++ ", " ++ toString b ++
      (if c = 1 then ")" else ", " ++ toString c ++ ")")
  | slice a b c =>
    "slice(" ++ written a ++ ", " ++ written b ++ ", " ++ written c ++ ")"
  | record fs => "namespace(" ++ commaList (writtenFields fs) ++ ")"
  | view kind _ xs => kind.typeName ++ "([" ++ commaList (writtenAll xs) ++ "])"
  | other _ text _ => text
  | again text => text

def writtenAll : List Datum → List String
  | [] => []
  | x :: xs => written x :: writtenAll xs

def writtenEntries : List (Datum × Datum) → List String
  | [] => []
  | (k, v) :: es => (written k ++ ": " ++ written v) :: writtenEntries es

def writtenFields : List (String × Datum) → List String
  | [] => []
  | (k, v) :: es =>
    if k.isEmpty then writtenFields es else (k ++ "=" ++ written v) :: writtenFields es

end

/-- Whether a value counts as true in a condition. -/
def truth : Datum → Bool
  | nothing => false
  | bool b => b
  | int n => n != 0
  | float _ x => !x.isZero
  | complex _ z => !z.isZero
  | str s => !s.isEmpty
  | bytes b => !b.isEmpty
  | list xs => !xs.isEmpty
  | tuple xs => !xs.isEmpty
  | set _ xs => !xs.isEmpty
  | dict es => !es.isEmpty
  | range a b c => rangeLength a b c != 0
  | view _ _ xs => !xs.isEmpty
  | _ => true

end Datum

end HtmlTemplate.Script
