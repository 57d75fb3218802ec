import HtmlTemplate.Number.Binary64

/-!
# Programs

The expressions and statements of the language that templates are written in, the names that they
bind, and which expressions are constants.
-/

namespace HtmlTemplate.Script

open HtmlTemplate.Number

/-- Values that are written down as they are. -/
inductive Literal
  | nothing
  | bool (b : Bool)
  | int (n : Nat)
  | float (x : Binary64)
  /-- A multiple of the imaginary unit. -/
  | imaginary (x : Binary64)
  | str (s : String)
  | bytes (b : List UInt8)
  | ellipsis
deriving Repr, Inhabited

/-- Operators with one operand. -/
inductive UnaryOp
  | plus
  | minus
  | invert
deriving DecidableEq, Repr

/-- Operators with two operands. -/
inductive BinaryOp
  | add
  | sub
  | mul
  | matMul
  | div
  | floorDiv
  | modulo
  | power
  | bitOr
  | bitXor
  | bitAnd
  | shiftLeft
  | shiftRight
deriving DecidableEq, Repr

/-- Comparisons by order. -/
inductive Order
  | lt
  | le
  | gt
  | ge
deriving DecidableEq, Repr

/-- Comparisons, which may be chained. -/
inductive Comparison
  | eq
  | ne
  | order (o : Order)
  | isSame
  | isNotSame
  | isIn
  | isNotIn
deriving DecidableEq, Repr

/-- What a comprehension makes of its members. -/
inductive Collect
  | list
  | set
  | dict
  | lazily
deriving DecidableEq, Repr

/-- The parameters of a function, with defaults in `α`. -/
structure Signature (α : Type) where
  /-- How many of the first parameters are given by their place alone. -/
  placed : Nat := 0
  params : List (String × Option α) := []
  /-- The parameter that takes further arguments. -/
  rest? : Option String := none
  /-- Parameters that are given by name alone. -/
  named : List (String × Option α) := []
  /-- The parameter that takes arguments of other names. -/
  others? : Option String := none
deriving Inhabited

/-- All names of parameters. -/
def Signature.names {α : Type} (s : Signature α) : List String :=
  s.params.map (·.1) ++ s.named.map (·.1) ++ s.rest?.toList ++ s.others?.toList

mutual

/-- Expressions. -/
inductive Expr
  | literal (l : Literal)
  | name (name : String)
  | tuple (items : List Expr)
  | list (items : List Expr)
  | set (items : List Expr)
  /-- A dictionary; an entry without a key stands for the entries of another dictionary. -/
  | dict (entries : List (Option Expr × Expr))
  /-- The members of a value among other items. -/
  | spread (e : Expr)
  | unary (op : UnaryOp) (e : Expr)
  | binary (op : BinaryOp) (a b : Expr)
  | negation (e : Expr)
  | both (a b : Expr)
  | oneOf (a b : Expr)
  /-- A chain of comparisons. -/
  | compare (first : Expr) (rest : List (Comparison × Expr))
  | choose (test yes no : Expr)
  | attribute (e : Expr) (name : String)
  | item (e index : Expr)
  | slice (start? stop? step? : Option Expr)
  /-- A call; an argument without a name among the named ones stands for all entries of a
  dictionary. -/
  | call (f : Expr) (args : List Expr) (named : List (Option String × Expr))
  /-- A comprehension: the member, the value that goes with it in a dictionary, and for each clause
  its target, its source and its tests. -/
  | comprehension (kind : Collect) (member : Expr) (value? : Option Expr)
      (clauses : List (Expr × Expr × List Expr))
  | function (params : Signature Expr) (body : Expr)
  /-- A value that is also bound to a name. -/
  | bind (name : String) (e : Expr)
  | interpolated (parts : List Piece)

/-- Parts of a text with embedded expressions. -/
inductive Piece
  | text (s : String)
  /-- An expression, the letter of its conversion and its layout. -/
  | value (e : Expr) (letter? : Option Char) (layout? : Option (List Piece))

end

instance : Inhabited Expr := ⟨.literal .nothing⟩

instance : Inhabited Piece := ⟨.text ""⟩

/-- Statements. -/
inductive Statement
  | expr (e : Expr)
  | assign (targets : List Expr) (value : Expr)
  | augment (target : Expr) (op : BinaryOp) (value : Expr)
  /-- An assignment with a note; `plain` tells that the target is a name without parentheses. -/
  | annotate (plain : Bool) (target note : Expr) (value? : Option Expr)
  | delete (targets : List Expr)
  | pass
  | stop
  | skip
  | give (value? : Option Expr)
  | fail (error? cause? : Option Expr)
  | check (test : Expr) (text? : Option Expr)
  | choose (test : Expr) (yes no : List Statement)
  | loop (test : Expr) (body after : List Statement)
  | each (target source : Expr) (body after : List Statement)
  /-- A function, with the notes on its parameters and its value. -/
  | define (decorators : List Expr) (name : String) (params : Signature Expr) (notes : List Expr)
      (body : List Statement)
  | defineClass (decorators : List Expr) (name : String) (body : List Statement)
  | within (entered : List (Expr × Option Expr)) (body : List Statement)
  | guarded (body : List Statement) (handlers : List (Option Expr × Option String × List Statement))
      (after always : List Statement)
  /-- The loading of modules, with the names to bind; none stand for all that a module holds. -/
  | load (module : String) (names? : Option (List String))
  /-- Names that belong to the outermost frame. -/
  | global (names : List String)
  /-- Names that belong to an enclosing function. -/
  | enclosing (names : List String)
deriving Inhabited

/-- What a source text denotes: an expression to be evaluated or statements to be run. -/
inductive Program
  | expression (e : Expr)
  | script (body : List Statement)
deriving Inhabited

/-- The text that a block begins with, which describes it. -/
def leadingText? : List Statement → Option String
  | .expr (.literal (.str s)) :: _ => some s
  | _ => none

/-- The name of the text that a program begins with. -/
def leadingTextName : String := "__doc__"

/-! ### Names that a scope mentions -/

/-- How a scope mentions a name. -/
inductive Mention
  /-- The name is read. -/
  | read (name : String)
  /-- The name is bound. -/
  | bound (name : String)
  /-- The name is declared to belong to the outermost frame. -/
  | global (name : String)
  /-- The name is declared to belong to an enclosing function. -/
  | enclosing (name : String)
deriving DecidableEq, Repr

/-- The name that is mentioned. -/
def Mention.name : Mention → String
  | read n => n
  | bound n => n
  | global n => n
  | enclosing n => n

/-- The name that is bound, if one is. -/
def Mention.bound? : Mention → Option String
  | bound n => some n
  | _ => none

mutual

/-- The names that an expression mentions in the scope it stands in, in order. A function has a
scope of its own; of the `inner` scope of a comprehension only the bindings count. -/
def Expr.mentions (inner : Bool) : Expr → List Mention
  | .literal _ => []
  | .name n => if inner then [] else [.read n]
  | .tuple items => exprsMentions inner items
  | .list items => exprsMentions inner items
  | .set items => exprsMentions inner items
  | .dict entries => entriesMentions inner entries
  | .spread e => e.mentions inner
  | .unary _ e => e.mentions inner
  | .binary _ a b => a.mentions inner ++ b.mentions inner
  | .negation e => e.mentions inner
  | .both a b => a.mentions inner ++ b.mentions inner
  | .oneOf a b => a.mentions inner ++ b.mentions inner
  | .compare first rest => first.mentions inner ++ comparedMentions inner rest
  | .choose test yes no => test.mentions inner ++ yes.mentions inner ++ no.mentions inner
  | .attribute e _ => e.mentions inner
  | .item e index => e.mentions inner ++ index.mentions inner
  | .slice a b c => optionMentions inner a ++ optionMentions inner b ++ optionMentions inner c
  | .call f args named => f.mentions inner ++ exprsMentions inner args ++ namedMentions inner named
  | .comprehension _ member value? clauses =>
    clausesMentions inner clauses ++ member.mentions true ++ optionMentions true value?
  | .function params _ =>
    paramsMentions inner params.params ++ paramsMentions inner params.named
  | .bind name e => .bound name :: e.mentions inner
  | .interpolated parts => piecesMentions inner parts

/-- The mentions in an expression that may be left out. -/
def optionMentions (inner : Bool) : Option Expr → List Mention
  | none => []
  | some e => e.mentions inner

/-- The mentions in expressions. -/
def exprsMentions (inner : Bool) : List Expr → List Mention
  | [] => []
  | e :: es => e.mentions inner ++ exprsMentions inner es

/-- The mentions in the entries of a dictionary. -/
def entriesMentions (inner : Bool) : List (Option Expr × Expr) → List Mention
  | [] => []
  | (k?, v) :: es => optionMentions inner k? ++ v.mentions inner ++ entriesMentions inner es

/-- The mentions in the rest of a chain of comparisons. -/
def comparedMentions (inner : Bool) : List (Comparison × Expr) → List Mention
  | [] => []
  | (_, e) :: es => e.mentions inner ++ comparedMentions inner es

/-- The mentions in named arguments. -/
def namedMentions (inner : Bool) : List (Option String × Expr) → List Mention
  | [] => []
  | (_, e) :: es => e.mentions inner ++ namedMentions inner es

/-- The mentions in the clauses of a comprehension; its first source belongs to the scope around
it. -/
def clausesMentions (inner : Bool) : List (Expr × Expr × List Expr) → List Mention
  | [] => []
  | (_, source, tests) :: rest =>
    source.mentions inner ++ exprsMentions true tests ++ clausesMentions true rest

/-- The mentions in the defaults of parameters. -/
def paramsMentions (inner : Bool) : List (String × Option Expr) → List Mention
  | [] => []
  | (_, e?) :: ps => optionMentions inner e? ++ paramsMentions inner ps

/-- The mentions in the parts of a text. -/
def piecesMentions (inner : Bool) : List Piece → List Mention
  | [] => []
  | .text _ :: ps => piecesMentions inner ps
  | .value e _ layout? :: ps =>
    e.mentions inner ++ layoutMentions inner layout? ++ piecesMentions inner ps

/-- The mentions in a layout. -/
def layoutMentions (inner : Bool) : Option (List Piece) → List Mention
  | none => []
  | some ps => piecesMentions inner ps

end

mutual

/-- The names that an assignment to an expression mentions. -/
def Expr.targetMentions : Expr → List Mention
  | .name n => [.bound n]
  | .tuple items => targetsMentions items
  | .list items => targetsMentions items
  | .spread e => e.targetMentions
  | e => e.mentions false

/-- The names that an assignment to several expressions mentions. -/
def targetsMentions : List Expr → List Mention
  | [] => []
  | e :: es => e.targetMentions ++ targetsMentions es

end

mutual

/-- The names that a statement mentions in the scope it stands in, in order. Notes are kept as texts
and mention nothing. -/
def Statement.mentions : Statement → List Mention
  | .expr e => e.mentions false
  | .assign targets e => targetsMentions targets ++ e.mentions false
  | .augment target _ e => target.targetMentions ++ e.mentions false
  | .annotate _ target _ value? => target.targetMentions ++ optionMentions false value?
  | .delete targets => targetsMentions targets
  | .pass => []
  | .stop => []
  | .skip => []
  | .give e? => optionMentions false e?
  | .fail e? cause? => optionMentions false e? ++ optionMentions false cause?
  | .check test text? => test.mentions false ++ optionMentions false text?
  | .choose test yes no => test.mentions false ++ blockMentions yes ++ blockMentions no
  | .loop test body after => test.mentions false ++ blockMentions body ++ blockMentions after
  | .each target source body after =>
    target.targetMentions ++ source.mentions false ++ blockMentions body ++ blockMentions after
  | .define decorators name params _ _ =>
    .bound name :: paramsMentions false params.params ++ paramsMentions false params.named ++
      exprsMentions false decorators
  | .defineClass decorators name _ => .bound name :: exprsMentions false decorators
  | .within entered body => enteredMentions entered ++ blockMentions body
  | .guarded body handlers after always =>
    blockMentions body ++ handlersMentions handlers ++ blockMentions after ++ blockMentions always
  | .load _ names? => (names?.getD []).map .bound
  | .global names => names.map .global
  | .enclosing names => names.map .enclosing

/-- The mentions in a block. -/
def blockMentions : List Statement → List Mention
  | [] => []
  | s :: ss => s.mentions ++ blockMentions ss

/-- The mentions in handlers. -/
def handlersMentions : List (Option Expr × Option String × List Statement) → List Mention
  | [] => []
  | (kind?, name?, body) :: rest =>
    optionMentions false kind? ++ name?.toList.map .bound ++ blockMentions body ++
      handlersMentions rest

/-- The mentions in the values that are entered. -/
def enteredMentions : List (Expr × Option Expr) → List Mention
  | [] => []
  | (e, target?) :: rest =>
    e.mentions false ++ (target?.map Expr.targetMentions).getD [] ++ enteredMentions rest

end

/-- The names that are bound among those mentioned. -/
def boundNames (mentions : List Mention) : List String := mentions.filterMap Mention.bound?

/-- The names that are declared to belong to the outermost frame. -/
def globalNames (mentions : List Mention) : List String :=
  mentions.filterMap fun m => match m with
    | .global n => some n
    | _ => none

/-- The names that are declared to belong to an enclosing function. -/
def enclosingNames (mentions : List Mention) : List String :=
  mentions.filterMap fun m => match m with
    | .enclosing n => some n
    | _ => none

/-! ### Notes -/

mutual

/-- Whether a statement holds an assignment with a note, outside of functions. -/
def Statement.hasNotes : Statement → Bool
  | .annotate .. => true
  | .choose _ yes no => blockHasNotes yes || blockHasNotes no
  | .loop _ body after => blockHasNotes body || blockHasNotes after
  | .each _ _ body after => blockHasNotes body || blockHasNotes after
  | .within _ body => blockHasNotes body
  | .guarded body handlers after always =>
    blockHasNotes body || handlersHaveNotes handlers || blockHasNotes after || blockHasNotes always
  | _ => false

/-- Whether a block holds an assignment with a note. -/
def blockHasNotes : List Statement → Bool
  | [] => false
  | s :: ss => s.hasNotes || blockHasNotes ss

/-- Whether handlers hold an assignment with a note. -/
def handlersHaveNotes : List (Option Expr × Option String × List Statement) → Bool
  | [] => false
  | (_, _, body) :: rest => blockHasNotes body || handlersHaveNotes rest

end

/-! ### Constants -/

mutual

/-- Whether an expression is made of literals alone, so that it is worked out only once. -/
def Expr.isConstant : Expr → Bool
  | .literal _ => true
  | .tuple items => areConstant items
  | .unary _ e => e.isConstant
  | .binary _ a b => a.isConstant && b.isConstant
  | _ => false

/-- Whether expressions are made of literals alone. -/
def areConstant : List Expr → Bool
  | [] => true
  | e :: es => e.isConstant && areConstant es

end

end HtmlTemplate.Script
