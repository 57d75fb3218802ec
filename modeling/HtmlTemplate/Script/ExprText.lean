import HtmlTemplate.Number.ComplexNumber
import HtmlTemplate.Script.Program
import HtmlTemplate.Text.Quoted

/-!
# Expressions as texts

`Expr.text` writes an expression in one way, whatever the text it was read from looked like: with
single spaces around operators and with no more parentheses than its `Binding` needs.
-/

namespace HtmlTemplate.Script

open HtmlTemplate.Number HtmlTemplate.Text

/-- How tightly the parts of an expression hold together, from tuples to single values. -/
inductive Binding
  | tuple
  | test
  | oneOf
  | both
  | negation
  | comparison
  | bitOr
  | bitXor
  | bitAnd
  | shift
  | sum
  | term
  | factor
  | power
  | waiting
  | atom
deriving DecidableEq, Repr

namespace Binding

/-- The next tighter binding. -/
def tighter : Binding → Binding
  | tuple => test
  | test => oneOf
  | oneOf => both
  | both => negation
  | negation => comparison
  | comparison => bitOr
  | bitOr => bitXor
  | bitXor => bitAnd
  | bitAnd => shift
  | shift => sum
  | sum => term
  | term => factor
  | factor => power
  | power => waiting
  | waiting => atom
  | atom => atom

/-- The place of a binding in the order. -/
def rank (b : Binding) : Nat := b.ctorIdx

end Binding

/-- How tightly an operator binds, and its sign. -/
def BinaryOp.binding : BinaryOp → Binding × String
  | add => (.sum, "+")
  | sub => (.sum, "-")
  | mul => (.term, "*")
  | matMul => (.term, "@")
  | div => (.term, "/")
  | floorDiv => (.term, "//")
  | modulo => (.term, "%")
  | power => (.power, "**")
  | bitOr => (.bitOr, "|")
  | bitXor => (.bitXor, "^")
  | bitAnd => (.bitAnd, "&")
  | shiftLeft => (.shift, "<<")
  | shiftRight => (.shift, ">>")

/-- The sign of a comparison. -/
def Comparison.sign : Comparison → String
  | eq => "=="
  | ne => "!="
  | order .lt => "<"
  | order .le => "<="
  | order .gt => ">"
  | order .ge => ">="
  | isSame => "is"
  | isNotSame => "is not"
  | isIn => "in"
  | isNotIn => "not in"

/-- The text of a literal. -/
def Literal.text : Literal → String
  | nothing => "None"
  | bool b => if b then "True" else "False"
  | int n => toString n
  | float x => if x.isInfinite then "1e309" else floatText x
  | imaginary x =>
    if x.isInfinite then "1e309j" else (ComplexNumber.ofImaginary x).text
  | str s => quote s
  | bytes b => quoteBytes b
  | ellipsis => "..."

/-- A text in parentheses where it binds more loosely than is called for. -/
def enclosed (wanted own : Binding) (s : String) : String :=
  if own.rank < wanted.rank then "(" ++ s ++ ")" else s

/-- A text with an opening brace for fields, set apart from a brace that follows. -/
def fieldStart (s : String) : String := if s.startsWith "\x7b" then "\x7b " else "\x7b"

/-- Texts set apart by commas. -/
def withCommas (texts : List String) : String := ", ".intercalate texts

mutual

/-- The text of an expression in a place that calls for a binding. -/
def Expr.textAt (wanted : Binding) : Expr → String
  | .literal l => l.text
  | .name n => n
  | .tuple items =>
    match exprTexts .test items with
    | [] => "()"
    | [item] => enclosed wanted .tuple (item ++ ",")
    | texts => enclosed wanted .tuple (withCommas texts)
  | .list items => "[" ++ withCommas (exprTexts .test items) ++ "]"
  | .set items => "\x7b" ++ withCommas (exprTexts .test items) ++ "\x7d"
  | .dict entries => "\x7b" ++ withCommas (entryTexts entries) ++ "\x7d"
  | .spread e => "*" ++ e.textAt .bitOr
  | .unary op e =>
    let sign := match op with
      | .plus => "+"
      | .minus => "-"
      | .invert => "~"
    enclosed wanted .factor (sign ++ e.textAt .factor)
  | .binary op a b =>
    let (own, sign) := op.binding
    let left := if op = .power then own.tighter else own
    let right := if op = .power then own else own.tighter
    enclosed wanted own (a.textAt left ++ " " ++ sign ++ " " ++ b.textAt right)
  | .negation e => enclosed wanted .negation ("not " ++ e.textAt .negation)
  | .both a b => enclosed wanted .both (a.textAt .negation ++ " and " ++ b.textAt .both)
  | .oneOf a b => enclosed wanted .oneOf (a.textAt .both ++ " or " ++ b.textAt .oneOf)
  | .compare first rest => enclosed wanted .comparison (first.textAt .bitOr ++ comparedText rest)
  | .choose test yes no =>
    enclosed wanted .test
      (yes.textAt .oneOf ++ " if " ++ test.textAt .oneOf ++ " else " ++ no.textAt .test)
  | .attribute e name =>
    let dot := match e with
      | .literal (.int _) => " ."
      | _ => "."
    e.textAt .atom ++ dot ++ name
  | .item e index => e.textAt .atom ++ "[" ++ index.textAt .tuple ++ "]"
  | .slice a b c =>
    optionText "" a ++ ":" ++ optionText "" b ++ optionText ":" c
  | .call f args named =>
    let given := exprTexts .test args ++ namedTexts named
    f.textAt .atom ++ match args, named with
      | [.comprehension .lazily ..], [] => withCommas given
      | _, _ => "(" ++ withCommas given ++ ")"
  | .comprehension kind member value? clauses =>
    let body := member.textAt .test ++ optionText ": " value? ++ clausesText clauses
    match kind with
    | .list => "[" ++ body ++ "]"
    | .lazily => "(" ++ body ++ ")"
    | _ => "\x7b" ++ body ++ "\x7d"
  | .function params body =>
    let given := paramsText params.placed (!params.named.isEmpty) params.rest? params.params ++
      namedParamsText params.named ++ params.others?.toList.map ("**" ++ ·)
    enclosed wanted .test ("lambda" ++ (if given.isEmpty then "" else " ") ++ withCommas given ++
      ": " ++ body.textAt .test)
  | .bind name e => enclosed wanted .tuple (name ++ " := " ++ e.textAt .atom)
  | .interpolated parts => "f" ++ quote (piecesText parts)

/-- The texts of expressions. -/
def exprTexts (wanted : Binding) : List Expr → List String
  | [] => []
  | e :: es => e.textAt wanted :: exprTexts wanted es

/-- The text of an expression after a mark, or nothing. -/
def optionText (mark : String) : Option Expr → String
  | none => ""
  | some e => mark ++ e.textAt .test

/-- The texts of the entries of a dictionary. -/
def entryTexts : List (Option Expr × Expr) → List String
  | [] => []
  | (none, v) :: es => ("**" ++ v.textAt .bitOr) :: entryTexts es
  | (some k, v) :: es => (k.textAt .test ++ ": " ++ v.textAt .test) :: entryTexts es

/-- The text of a chain of comparisons. -/
def comparedText : List (Comparison × Expr) → String
  | [] => ""
  | (op, e) :: rest => " " ++ op.sign ++ " " ++ e.textAt .bitOr ++ comparedText rest

/-- The texts of named arguments. -/
def namedTexts : List (Option String × Expr) → List String
  | [] => []
  | (none, e) :: rest => ("**" ++ e.textAt .test) :: namedTexts rest
  | (some n, e) :: rest => (n ++ "=" ++ e.textAt .test) :: namedTexts rest

/-- The text of the clauses of a comprehension. -/
def clausesText : List (Expr × Expr × List Expr) → String
  | [] => ""
  | (target, source, tests) :: rest =>
    " for " ++ target.textAt .tuple ++ " in " ++ source.textAt .oneOf ++ testsText tests ++
      clausesText rest

/-- The text of the tests of a clause. -/
def testsText : List Expr → String
  | [] => ""
  | e :: es => " if " ++ e.textAt .oneOf ++ testsText es

/-- The texts of parameters, with the marks that end those given by place alone and begin those given
by name alone. -/
def paramsText (placed : Nat) (hasNamed : Bool) (rest? : Option String) :
    List (String × Option Expr) → List String
  | [] =>
    match rest? with
    | some name => ["*" ++ name]
    | none => if hasNamed then ["*"] else []
  | (name, e?) :: ps =>
    (name ++ optionText "=" e?) ::
      (if placed = 1 then ["/"] else []) ++ paramsText (placed - 1) hasNamed rest? ps

/-- The texts of parameters that are given by name alone. -/
def namedParamsText : List (String × Option Expr) → List String
  | [] => []
  | (name, e?) :: ps => (name ++ optionText "=" e?) :: namedParamsText ps

/-- The text of parts, without the quotes around it. -/
def piecesText : List Piece → String
  | [] => ""
  | .text s :: ps => (s.replace "\x7b" "\x7b\x7b").replace "\x7d" "\x7d\x7d" ++ piecesText ps
  | .value e letter? layout? :: ps =>
    let inner := e.textAt .oneOf
    fieldStart inner ++ inner ++ (letter?.map fun l => "!" ++ String.singleton l).getD "" ++
      layoutText? layout? ++ "\x7d" ++ piecesText ps

/-- The text of a layout after its mark, or nothing. -/
def layoutText? : Option (List Piece) → String
  | none => ""
  | some ps => ":" ++ piecesText ps

end

/-- The text of an expression. -/
def Expr.text (e : Expr) : String := e.textAt .test

end HtmlTemplate.Script
