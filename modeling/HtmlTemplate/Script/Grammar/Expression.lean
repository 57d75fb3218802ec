import HtmlTemplate.Script.Grammar.Reader

/-!
# The grammar of expressions

Expressions are read rank by rank, from the conditional down to the names and literals:
`expressionStep` reads one rank with the help of a reader for the others, and `expressionAt` ties
the knot, its number bounding the nesting.
-/

namespace HtmlTemplate.Script.Grammar

/-! ### Ranks and signs -/

/-- The ranks of expressions, from the conditional expression to what can be called. -/
inductive Rank
  | whole
  | either
  | both
  | inverse
  | comparison
  | operand (level : Nat)
  | signed
  | power
  | primary
deriving DecidableEq

/-- The operators of a level between comparisons and signs, those that bind weakest first. -/
def operatorAt (level : Nat) : Token → Option BinaryOp
  | .sign s =>
    match level, s with
    | 0, "|" => some .bitOr
    | 1, "^" => some .bitXor
    | 2, "&" => some .bitAnd
    | 3, "<<" => some .shiftLeft
    | 3, ">>" => some .shiftRight
    | 4, "+" => some .add
    | 4, "-" => some .sub
    | 5, "*" => some .mul
    | 5, "@" => some .matMul
    | 5, "/" => some .div
    | 5, "//" => some .floorDiv
    | 5, "%" => some .modulo
    | _, _ => none
  | _ => none

/-- The rank below an operator level. -/
def Rank.below (level : Nat) : Rank := if level < 5 then .operand (level + 1) else .signed

/-- Reads the sign of a comparison, when there is one. -/
def comparisonSign : Parse (Option Comparison) := do
  match ← peek with
  | .sign s =>
    let found : Option Comparison := match s with
      | "==" => some .eq
      | "!=" => some .ne
      | "<" => some (.order .lt)
      | "<=" => some (.order .le)
      | ">" => some (.order .gt)
      | ">=" => some (.order .ge)
      | _ => none
    if found.isSome then advance
    return found
  | .word "in" =>
    advance
    return some .isIn
  | .word "is" =>
    advance
    if ← accept (isWord "not") then return some .isNotSame else return some .isSame
  | .word "not" =>
    if isWord "in" (← peekSecond) then
      advance
      advance
      return some .isNotIn
    else return none
  | _ => return none

/-- Whether a token can begin an expression. -/
def beginsExpression : Token → Bool
  | .name _ => true
  | .literal _ => true
  | .template _ => true
  | .word w => ["not", "None", "True", "False", "lambda"].contains w
  | .sign s => ["(", "[", "\x7b", "+", "-", "~", "..."].contains s
  | _ => false

/-- Whether a token can begin an expression or a starred one. -/
def beginsItem (t : Token) : Bool := beginsExpression t || isSign "*" t

/-! ### Targets -/

/-- Whether an expression is a starred one. -/
def isStarred : Expr → Bool
  | .spread _ => true
  | _ => false

mutual

/-- Whether values can be assigned to an expression; of the parts that it is taken apart into, one
may be starred. -/
def isTarget : Expr → Bool
  | .name _ => true
  | .attribute .. => true
  | .item .. => true
  | .tuple es => areTargets es && es.countP isStarred ≤ 1
  | .list es => areTargets es && es.countP isStarred ≤ 1
  | _ => false

/-- Whether values can be assigned to expressions, which may be starred. -/
def areTargets : List Expr → Bool
  | [] => true
  | e :: es => isPartTarget e && areTargets es

/-- Whether values can be assigned to an expression, which may be starred. -/
def isPartTarget : Expr → Bool
  | .spread e => !isStarred e && isTarget e
  | .name _ => true
  | .attribute .. => true
  | .item .. => true
  | .tuple es => areTargets es && es.countP isStarred ≤ 1
  | .list es => areTargets es && es.countP isStarred ≤ 1
  | _ => false

end

mutual

/-- Whether what an expression stands for can be removed. -/
def isDeletable : Expr → Bool
  | .name _ => true
  | .attribute .. => true
  | .item .. => true
  | .tuple es => areDeletable es
  | .list es => areDeletable es
  | _ => false

/-- Whether what several expressions stand for can be removed. -/
def areDeletable : List Expr → Bool
  | [] => true
  | e :: es => isDeletable e && areDeletable es

end

/-- Whether names are all different. -/
def areDistinct : List String → Bool
  | [] => true
  | n :: ns => !ns.contains n && areDistinct ns

/-- The comprehension of the given parts, unless it binds a name in a source or binds the name of a
member anew. -/
def comprehend (kind : Collect) (member : Expr) (value? : Option Expr)
    (clauses : List (Expr × Expr × List Expr)) : Parse Expr :=
  let targets := clauses.flatMap fun c => boundNames c.1.targetMentions
  let inside := member.mentions true ++ optionMentions true value? ++
    clauses.flatMap fun c => exprsMentions true c.2.2
  if isStarred member || clauses.any (fun c => !(boundNames (c.2.1.mentions true)).isEmpty) ||
      (boundNames inside).any targets.contains then malformed
  else return .comprehension kind member value? clauses

section

variable (read : Rank → Parse Expr)

/-! ### Items -/

/-- Reads an expression that may be starred. -/
def starredOr (item : Parse Expr) : Parse Expr := do
  if ← accept (isSign "*") then return .spread (← read (.operand 0)) else item

/-- Whether a name follows that a value is bound to. -/
def beginsNamed : Parse Bool := do return isName (← peek) && isSign ":=" (← peekSecond)

/-- Reads an expression whose value may be bound to a name. -/
def namedExpression : Parse Expr := do
  match ← peek with
  | .name n =>
    if isSign ":=" (← peekSecond) then
      advance
      advance
      if n == "__debug__" then malformed else return .bind n (← read .whole)
    else read .whole
  | _ => read .whole

/-- Reads one item, or several with commas between them. -/
def itemsOrOne (item : Parse Expr) : Parse Expr := do
  match ← moreItems item beginsItem (← item) with
  | ([e], false, _) => if isStarred e then malformed else return e
  | (es, _, _) => return .tuple es

/-- Reads several expressions with commas between them as a tuple, and one as itself. -/
def expressions : Parse Expr := itemsOrOne (starredOr read (read .whole))

/-- Reads what a loop assigns to. -/
def loopTarget : Parse Expr := do
  let e ← itemsOrOne (starredOr read (read (.operand 0)))
  if isTarget e then return e else refuse

/-- Reads the clauses of a comprehension, when there are any. -/
def clauses : Parse (List (Expr × Expr × List Expr)) :=
  many (isWord "for") do
    advance
    let target ← loopTarget read
    expect (isWord "in")
    let source ← read .either
    let tests ← many (isWord "if") do
      advance
      read .either
    return (target, source, tests)

/-! ### Brackets -/

/-- Reads the inside of brackets after a first item: the rest of the items, or the clauses of a
comprehension. -/
def afterFirst (first : Expr) (close : String) (make : List Expr → Bool → Expr) (kind : Collect) :
    Parse Expr := do
  match ← clauses read with
  | [] =>
    let (items, comma, _) ← moreItems (starredOr read (namedExpression read)) beginsItem first
    expect (isSign close)
    return make items comma
  | found =>
    expect (isSign close)
    comprehend kind first none found

/-- Reads the inside of square brackets. -/
def squareBracketed : Parse Expr := do
  if ← accept (isSign "]") then return .list []
  else
    let first ← starredOr read (namedExpression read)
    afterFirst read first "]" (fun items _ => .list items) .list

/-- Reads the inside of parentheses. -/
def parenthesized : Parse Expr := do
  if ← accept (isSign ")") then return .tuple []
  else
    let first ← starredOr read (namedExpression read)
    if isStarred first && !isSign "," (← peek) then refuse
    else
      afterFirst read first ")" (fun items comma => if comma then .tuple items else first) .lazily

/-- Reads an entry of a dictionary. -/
def entry : Parse (Option Expr × Expr) := do
  if ← accept (isSign "**") then return (none, ← read (.operand 0))
  else
    let k ← read .whole
    expect (isSign ":")
    return (some k, ← read .whole)

/-- Reads the rest of a dictionary after a first entry. -/
def moreEntries (first : Option Expr × Expr) : Parse Expr := do
  let begins (t : Token) : Bool := beginsExpression t || isSign "**" t
  let (entries, _) ← moreItems (entry read) begins first
  expect (isSign "\x7d")
  return .dict entries

/-- Reads the inside of braces. -/
def braced : Parse Expr := do
  if ← accept (isSign "\x7d") then return .dict []
  else if isSign "**" (← peek) then moreEntries read (← entry read)
  else
    let named ← beginsNamed
    let first ← starredOr read (namedExpression read)
    let mayBeKey := match first with
      | .spread _ => false
      | _ => !named
    if mayBeKey && isSign ":" (← peek) then
      advance
      let value ← read .whole
      match ← clauses read with
      | [] => moreEntries read (some first, value)
      | found =>
        expect (isSign "\x7d")
        comprehend .dict first (some value) found
    else afterFirst read first "\x7d" (fun items _ => .set items) .set

/-! ### Quoted texts -/

/-- Reads the expression of a text with embedded expressions. -/
def readEmbedded (source : String) : Parse Expr :=
  let whole : Parse Expr := do
    let e ← expressions read
    expect isNewline
    return e
  match whole (tokens ("(" ++ source ++ ")")) with
  | .ok (e, _) => return e
  | .error _ => malformed

/-- Reads the parts of a text with embedded expressions; their layouts nest at most so deep. -/
def readParts : Nat → List TemplatePart → Parse (List Piece)
  | 0, _ => malformed
  | levels + 1, parts => parts.mapM fun part => do
    match part with
    | .text s => return .text s
    | .value source letter? layout? =>
      let e ← readEmbedded read source
      match layout? with
      | none => return .value e letter? none
      | some parts => return .value e letter? (some (← readParts levels parts))

/-- Texts side by side in a program: characters, bytes or parts. -/
inductive Quoted
  | plain (s : String)
  | bytes (b : List UInt8)
  | parts (ps : List Piece)

/-- Whether a token is a quoted text. -/
def isQuoted : Token → Bool
  | .literal (.str _) => true
  | .literal (.bytes _) => true
  | .template _ => true
  | _ => false

/-- Reads one quoted text. -/
def readQuoted : Parse Quoted := do
  match ← peek with
  | .literal (.str s) =>
    advance
    return .plain s
  | .literal (.bytes b) =>
    advance
    return .bytes b
  | .template parts =>
    advance
    return .parts (← readParts read 4 parts)
  | _ => refuse

/-- Joins quoted texts; bytes go only with bytes. -/
def Quoted.join? : Quoted → Quoted → Option Quoted
  | .plain a, .plain b => some (.plain (a ++ b))
  | .plain a, .parts bs => some (.parts (.text a :: bs))
  | .parts as, .plain b => some (.parts (as ++ [.text b]))
  | .parts as, .parts bs => some (.parts (as ++ bs))
  | .bytes a, .bytes b => some (.bytes (a ++ b))
  | _, _ => none

/-- Joins the characters that stand side by side. -/
def joinPieces : List Piece → List Piece
  | [] => []
  | .text a :: ps =>
    match joinPieces ps with
    | .text b :: rest => .text (a ++ b) :: rest
    | rest => if a.isEmpty then rest else .text a :: rest
  | p :: ps => p :: joinPieces ps

/-- The expression that a quoted text is. -/
def Quoted.toExpr : Quoted → Expr
  | .plain s => .literal (.str s)
  | .bytes b => .literal (.bytes b)
  | .parts ps => .interpolated (joinPieces ps)

/-- Reads names, literals and everything in brackets. -/
def atom : Parse Expr := do
  let t ← peek
  if isQuoted t then
    let first ← readQuoted read
    let all ← extendAll (fun q => do
      if isQuoted (← peek) then
        match q.join? (← readQuoted read) with
        | some joined => return some joined
        | none => malformed
      else return none) first
    return all.toExpr
  else
    match t with
    | .name n =>
      advance
      return if n == "__debug__" then .literal (.bool true) else .name n
    | .literal l =>
      advance
      return .literal l
    | .word "None" =>
      advance
      return .literal .nothing
    | .word "True" =>
      advance
      return .literal (.bool true)
    | .word "False" =>
      advance
      return .literal (.bool false)
    | .sign "..." =>
      advance
      return .literal .ellipsis
    | .sign "(" =>
      advance
      parenthesized read
    | .sign "[" =>
      advance
      squareBracketed read
    | .sign "\x7b" =>
      advance
      braced read
    | _ => refuse

/-! ### Parameters -/

/-- Parameters as far as they have been read. -/
structure Parameters where
  params : Signature Expr := {}
  notes : List Expr := []
  /-- Whether a star has come. -/
  starred : Bool := false
  /-- Whether a star without a name has come with no parameter after it. -/
  bare : Bool := false
  /-- Whether no parameter may follow. -/
  ended : Bool := false

/-- Reads the name of a parameter and the note on it. -/
def parameterName (annotated : Bool) : Parse (String × List Expr) := do
  let name ← expectName
  if name == "__debug__" then malformed
  else if annotated then
    if ← accept (isSign ":") then return (name, [← read .whole]) else return (name, [])
  else return (name, [])

/-- Reads one parameter. -/
def parameter (annotated : Bool) (p : Parameters) : Parse Parameters := do
  match ← peek with
  | .sign "/" =>
    if p.starred || p.params.placed != 0 || p.params.params.isEmpty then refuse
    else
      advance
      return { p with params := { p.params with placed := p.params.params.length } }
  | .sign "*" =>
    if p.starred then refuse
    else
      advance
      if isName (← peek) then
        let (name, notes) ← parameterName read annotated
        return { p with
          params := { p.params with rest? := some name }, notes := p.notes ++ notes, starred := true }
      else return { p with starred := true, bare := true }
  | .sign "**" =>
    if p.bare then refuse
    else
      advance
      let (name, notes) ← parameterName read annotated
      return { p with
        params := { p.params with others? := some name }, notes := p.notes ++ notes, ended := true }
  | _ =>
    let (name, notes) ← parameterName read annotated
    let default? ← if ← accept (isSign "=") then some <$> read .whole else pure none
    let notes := p.notes ++ notes
    if p.starred then
      return { p with
        params := { p.params with named := p.params.named ++ [(name, default?)] },
        notes := notes, bare := false }
    else if default?.isNone && p.params.params.any (·.2.isSome) then malformed
    else
      return { p with
        params := { p.params with params := p.params.params ++ [(name, default?)] }, notes := notes }

/-- Reads parameters up to the sign that ends them. -/
def parameters (annotated : Bool) (close : String) : Parse (Signature Expr × List Expr) := do
  let p : Parameters ← if isSign close (← peek) then pure {}
    else
      extendAll (fun p => do
        if isSign close (← peek) then return none
        else
          expect (isSign ",")
          if isSign close (← peek) then return none
          else if p.ended then refuse
          else return some (← parameter read annotated p)) (← parameter read annotated {})
  if p.bare then refuse
  else if !areDistinct p.params.names then malformed
  else return (p.params, p.notes)

/-! ### Calls and accesses -/

/-- Arguments of a call as far as they have been read. -/
structure Arguments where
  plain : List Expr := []
  named : List (Option String × Expr) := []
  /-- Whether the entries of a dictionary have been given. -/
  spread : Bool := false

/-- Reads one argument. -/
def argument (args : Arguments) : Parse Arguments := do
  let t ← peek
  match t, ← peekSecond with
  | .name n, .sign "=" =>
    advance
    advance
    if n == "__debug__" || args.named.any (·.1 == some n) then malformed
    else return { args with named := args.named ++ [(some n, ← read .whole)] }
  | _, _ =>
    if isSign "**" t then
      advance
      return { args with named := args.named ++ [(none, ← read .whole)], spread := true }
    else if isSign "*" t then
      if args.spread then malformed
      else
        advance
        return { args with plain := args.plain ++ [.spread (← read .whole)] }
    else if !args.named.isEmpty then refuse
    else return { args with plain := args.plain ++ [← namedExpression read] }

/-- Reads the arguments of a call after the opening parenthesis. -/
def arguments : Parse (List Expr × List (Option String × Expr)) := do
  if ← accept (isSign ")") then return ([], [])
  else
    let first ← argument read {}
    match first.plain, ← clauses read with
    | [member], found@(_ :: _) =>
      expect (isSign ")")
      return ([← comprehend .lazily member none found], [])
    | _, [] =>
      let all ← extendAll (fun args => do
        if isSign ")" (← peek) then return none
        else
          expect (isSign ",")
          if isSign ")" (← peek) then return none
          else return some (← argument read args)) first
      expect (isSign ")")
      return (all.plain, all.named)
    | _, _ => refuse

/-- Reads an expression unless one of the signs follows that end it. -/
def optional (ends : List String) : Parse (Option Expr) := do
  match ← peek with
  | .sign s => if ends.contains s then return none else return some (← read .whole)
  | _ => return some (← read .whole)

/-- Reads one index, or the bounds of a slice. -/
def index : Parse Expr := do
  let rest (start? : Option Expr) : Parse Expr := do
    let stop? ← optional read [":", ",", "]"]
    let step? ← if ← accept (isSign ":") then optional read [",", "]"] else pure none
    return .slice start? stop? step?
  if ← accept (isSign ":") then rest none
  else
    let named ← beginsNamed
    let e ← starredOr read (namedExpression read)
    match e with
    | .spread _ => return e
    | _ => if !named && (← accept (isSign ":")) then rest (some e) else return e

/-- Reads the inside of an access by index. -/
def access (e : Expr) : Parse Expr := do
  let begins (t : Token) : Bool := beginsItem t || isSign ":" t
  let (items, comma, _) ← moreItems (index read) begins (← index read)
  expect (isSign "]")
  match items, comma with
  | [i@(.spread _)], _ => return .item e (.tuple [i])
  | [i], false => return .item e i
  | _, _ => return .item e (.tuple items)

/-- Whether a token goes on after an expression that is accessed or called. -/
def continuesPrimary : Token → Bool
  | .sign s => s == "." || s == "(" || s == "["
  | _ => false

/-- Reads an atom with the accesses and calls after it. -/
def primary : Parse Expr := do
  let e ← atom read
  if continuesPrimary (← peek) then
    extendAll (fun e => do
      match ← peek with
      | .sign "." =>
        advance
        return some (.attribute e (← expectName))
      | .sign "(" =>
        advance
        let (plain, named) ← arguments read
        return some (.call e plain named)
      | .sign "[" =>
        advance
        return some (← access read e)
      | _ => return none) e
  else return e

/-! ### Ranks -/

/-- Reads the comparisons after an operand. -/
def comparisons : Parse (List (Comparison × Expr)) := do
  let rest ← extendAll (fun rest => do
    match ← comparisonSign with
    | none => return none
    | some op => return some ((op, ← read (.operand 0)) :: rest)) []
  return rest.reverse

/-- Whether a token may begin the sign of a comparison. -/
def beginsComparison : Token → Bool
  | .sign s => ["==", "!=", "<", "<=", ">", ">="].contains s
  | .word w => ["in", "is", "not"].contains w
  | _ => false

/-- Reads an expression of a rank with the help of `read` for other ranks and inner expressions. -/
def expressionStep : Rank → Parse Expr
  | .whole => do
    if ← accept (isWord "lambda") then
      let (params, _) ← parameters read false ":"
      expect (isSign ":")
      return .function params (← read .whole)
    else
      let e ← read .either
      if ← accept (isWord "if") then
        let test ← read .either
        expect (isWord "else")
        return .choose test e (← read .whole)
      else return e
  | .either => do
    let e ← read .both
    if ← accept (isWord "or") then return .oneOf e (← read .either) else return e
  | .both => do
    let e ← read .inverse
    if ← accept (isWord "and") then return .both e (← read .both) else return e
  | .inverse => do
    if ← accept (isWord "not") then return .negation (← read .inverse) else read .comparison
  | .comparison => do
    let first ← read (.operand 0)
    if beginsComparison (← peek) then
      match ← comparisons read with
      | [] => return first
      | rest => return .compare first rest
    else return first
  | .operand level => do
    let first ← read (Rank.below level)
    if (operatorAt level (← peek)).isSome then
      extendAll (fun left => do
        match operatorAt level (← peek) with
        | none => return none
        | some op =>
          advance
          return some (.binary op left (← read (Rank.below level)))) first
    else return first
  | .signed => do
    match ← peek with
    | .sign "+" =>
      advance
      return .unary .plus (← read .signed)
    | .sign "-" =>
      advance
      return .unary .minus (← read .signed)
    | .sign "~" =>
      advance
      return .unary .invert (← read .signed)
    | _ => read .power
  | .power => do
    let e ← read .primary
    if ← accept (isSign "**") then return .binary .power e (← read .signed) else return e
  | .primary => primary read

end

/-- Reads an expression of a rank; the number bounds the nesting. -/
def expressionAt : Nat → Rank → Parse Expr
  | 0, _ => refuse
  | n + 1, rank => expressionStep (expressionAt n) rank

end HtmlTemplate.Script.Grammar
