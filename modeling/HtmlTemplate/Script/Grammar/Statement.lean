import HtmlTemplate.Script.Grammar.Expression

/-!
# The grammar of statements

`lineStep` reads the statements of one line, or a statement with its blocks, with the help of a
reader for the lines inside it; `lineAt` ties the knot, its number bounding the nesting of blocks.
-/

namespace HtmlTemplate.Script.Grammar

/-- Handlers of errors: the kinds, the name for the error, and what to do. -/
abbrev Handlers := List (Option Expr × Option String × List Statement)

/-- The operators of assignments that change a value. -/
def augmentedOperator? (sign : String) : Option BinaryOp :=
  match sign with
  | "+=" => some .add
  | "-=" => some .sub
  | "*=" => some .mul
  | "@=" => some .matMul
  | "/=" => some .div
  | "//=" => some .floorDiv
  | "%=" => some .modulo
  | "**=" => some .power
  | "|=" => some .bitOr
  | "^=" => some .bitXor
  | "&=" => some .bitAnd
  | "<<=" => some .shiftLeft
  | ">>=" => some .shiftRight
  | _ => none

/-- Whether a token ends a simple statement. -/
def endsStatement : Token → Bool
  | .newline => true
  | .sign ";" => true
  | .stop => true
  | _ => false

/-- Whether an expression is a single target: a name, an attribute or an item. -/
def isSingleTarget : Expr → Bool
  | .name _ => true
  | .attribute .. => true
  | .item .. => true
  | _ => false

section

variable (expr : Rank → Parse Expr)

/-! ### Assignments -/

/-- Reads an assignment or an expression. -/
def assignment : Parse Statement := do
  let start ← peek
  let first ← itemsOrOne (starredOr expr (expr .whole))
  match ← peek with
  | .sign "=" =>
    let (targets, value) ← extendAll (fun (targets, value) => do
      if ← accept (isSign "=") then
        if isTarget value then return some (targets ++ [value], ← expressions expr) else malformed
      else return none) ([], first)
    return .assign targets value
  | .sign ":" =>
    if isSingleTarget first then
      advance
      let note ← expr .whole
      let value? ← if ← accept (isSign "=") then some <$> expressions expr else pure none
      return .annotate (isName start) first note value?
    else refuse
  | .sign s =>
    match augmentedOperator? s with
    | none => return .expr first
    | some op =>
      if isSingleTarget first then
        advance
        return .augment first op (← expressions expr)
      else malformed
  | _ => return .expr first

/-! ### Modules -/

/-- Reads a dotted name. -/
def dottedName : Parse (List String) := do
  let first ← expectName
  return first :: (← many (isSign ".") do
    advance
    expectName)

/-- Reads a second name after `as`, when there is one. -/
def otherName : Parse (Option String) := do
  if ← accept (isWord "as") then return some (← expectName) else return none

/-- Reads a module and gives the name that it is bound to. -/
def loadedModule : Parse String := do
  let name ← dottedName
  return (← otherName).getD (name.headD "")

/-- Reads a name that a module gives and the name that it is bound to. -/
def givenName : Parse String := do
  let name ← expectName
  return (← otherName).getD name

/-- Reads the loading of names from a module after its first word. -/
def givenNames : Parse Statement := do
  let dots ← many (fun t => isSign "." t || isSign "..." t) advance
  let name ← if dots.isEmpty || !isWord "import" (← peek) then dottedName else pure []
  let name := ".".intercalate name
  expect (isWord "import")
  if ← accept (isSign "*") then return .load name none
  else if ← accept (isSign "(") then
    let (names, _, _) ← moreItems givenName isName (← givenName)
    expect (isSign ")")
    return .load name (some names)
  else return .load name (some (← separated givenName))

/-! ### Lines without blocks -/

/-- Reads a statement without a block. -/
def simpleStatement : Parse Statement := do
  match ← peek with
  | .word "pass" =>
    advance
    return .pass
  | .word "break" =>
    advance
    return .stop
  | .word "continue" =>
    advance
    return .skip
  | .word "return" =>
    advance
    if endsStatement (← peek) then return .give none
    else return .give (some (← expressions expr))
  | .word "raise" =>
    advance
    if endsStatement (← peek) then return .fail none none
    else
      let e ← expr .whole
      if ← accept (isWord "from") then return .fail (some e) (some (← expr .whole))
      else return .fail (some e) none
  | .word "assert" =>
    advance
    let e ← expr .whole
    if ← accept (isSign ",") then return .check e (some (← expr .whole)) else return .check e none
  | .word "del" =>
    advance
    let target ← expressions expr
    if isDeletable target then
      match target with
      | .tuple es => return .delete es
      | e => return .delete [e]
    else malformed
  | .word "global" =>
    advance
    return .global (← separated expectName)
  | .word "nonlocal" =>
    advance
    return .enclosing (← separated expectName)
  | .word "import" =>
    advance
    return .load "" (some (← separated loadedModule))
  | .word "from" =>
    advance
    givenNames
  | _ => assignment expr

/-- Reads simple statements up to the end of their line. -/
def simpleLine : Parse (List Statement) := do
  let first ← simpleStatement expr
  let found ← many (isSign ";") do
    advance
    if endsStatement (← peek) then return [] else return [← simpleStatement expr]
  expect isNewline
  if found.dropLast.any (·.isEmpty) then malformed else return first :: found.flatten

variable (line : Parse (List Statement))

/-! ### Blocks -/

/-- Reads the block of a statement after its colon. -/
def block : Parse (List Statement) := do
  expect (isSign ":")
  if ← accept isNewline then
    if ← accept isIndent then
      let first ← line
      let (lines, _) ← extendAll (fun (lines, ended) => do
        if ended then return none
        else if ← accept isDedent then return some (lines, true)
        else return some ((← line) :: lines, false)) ([first], false)
      return lines.reverse.flatten
    else
      match ← peek with
      | .flawed _ => refuse
      | _ => fun _ => .error .misindented
  else simpleLine expr

/-- Reads a block after a word; without the word there is none. -/
def blockAfter (word : String) : Parse (List Statement) := do
  if ← accept (isWord word) then block expr line else return []

/-- Reads a choice after its first word. -/
def choice : Parse Statement := do
  let branch : Parse (Expr × List Statement) := do
    let test ← namedExpression expr
    return (test, ← block expr line)
  let (test, yes) ← branch
  let others ← many (isWord "elif") do
    advance
    branch
  let last ← blockAfter expr line "else"
  return .choose test yes (others.foldr (fun (test, yes) no => [.choose test yes no]) last)

/-- Reads a definition after its first word. -/
def definition (decorators : List Expr) : Parse Statement := do
  let name ← expectName
  expect (isSign "(")
  let (params, notes) ← parameters expr true ")"
  expect (isSign ")")
  let last ← if ← accept (isSign "->") then some <$> expr .whole else pure none
  return .define decorators name params (notes ++ last.toList) (← block expr line)

/-- Reads a class after its first word. -/
def classDefinition (decorators : List Expr) : Parse Statement := do
  let name ← expectName
  if ← accept (isSign "(") then
    let _ ← arguments expr
  return .defineClass decorators name (← block expr line)

/-- Reads the expressions before a definition and the definition itself. -/
def decorated : Parse Statement := do
  let decorators ← many (isSign "@") do
    advance
    let e ← namedExpression expr
    expect isNewline
    return e
  if ← accept (isWord "def") then definition expr line decorators
  else if ← accept (isWord "class") then classDefinition expr line decorators
  else refuse

/-- Reads a value that is entered and what it is bound to. -/
def entered : Parse (Expr × Option Expr) := do
  let e ← expr .whole
  if ← accept (isWord "as") then
    let target ← starredOr expr (expr (.operand 0))
    if isTarget target then return (e, some target) else refuse
  else return (e, none)

/-- Reads a block with entered values after its first word. -/
def withinBlock : Parse Statement := do
  let bracketed : Parse (List (Expr × Option Expr)) := do
    expect (isSign "(")
    let (items, _, _) ← moreItems (entered expr) beginsExpression (← entered expr)
    expect (isSign ")")
    if isSign ":" (← peek) then return items else refuse
  let items ← either bracketed (separated (entered expr))
  return .within items (← block expr line)

/-- Reads a handler after its first word. -/
def handler : Parse (Option Expr × Option String × List Statement) := do
  if isSign ":" (← peek) then return (none, none, ← block expr line)
  else
    let kind ← expr .whole
    let name? ← otherName
    return (some kind, name?, ← block expr line)

/-- Whether a handler for all errors comes last. -/
def handlersFit : Handlers → Bool
  | [] => true
  | [_] => true
  | (kind?, _, _) :: rest => kind?.isSome && handlersFit rest

/-- Reads a guarded block after its first word. -/
def guardedBlock : Parse Statement := do
  let body ← block expr line
  let handlers ← many (isWord "except") do
    advance
    handler expr line
  if handlers.isEmpty && !isWord "finally" (← peek) then
    match ← peek with
    | .flawed _ => refuse
    | _ => malformed
  else
    let after ← if handlers.isEmpty then pure [] else blockAfter expr line "else"
    let always ← blockAfter expr line "finally"
    if handlersFit handlers then return .guarded body handlers after always else malformed

/-- Reads the statements of one line, or a statement with its blocks. -/
def lineStep : Parse (List Statement) := do
  match ← peek with
  | .word "if" =>
    advance
    return [← choice expr line]
  | .word "while" =>
    advance
    let test ← namedExpression expr
    let body ← block expr line
    return [.loop test body (← blockAfter expr line "else")]
  | .word "for" =>
    advance
    let target ← loopTarget expr
    expect (isWord "in")
    let source ← expressions expr
    let body ← block expr line
    return [.each target source body (← blockAfter expr line "else")]
  | .word "def" =>
    advance
    return [← definition expr line []]
  | .word "class" =>
    advance
    return [← classDefinition expr line []]
  | .sign "@" => return [← decorated expr line]
  | .word "with" =>
    advance
    return [← withinBlock expr line]
  | .word "try" =>
    advance
    return [← guardedBlock expr line]
  | _ => simpleLine expr

end

/-- Reads a line; the number bounds the nesting of blocks. -/
def lineAt (expr : Rank → Parse Expr) : Nat → Parse (List Statement)
  | 0 => refuse
  | n + 1 => lineStep expr (lineAt expr n)

/-- Reads all lines of a program. -/
def script (line : Parse (List Statement)) : Parse (List Statement) := do
  let (lines, _) ← extendAll (fun (lines, ended) => do
    if ended then return none
    else
      match ← peek with
      | .stop => return some (lines, true)
      | _ => return some ((← line) :: lines, false)) ([], false)
  return lines.reverse.flatten

/-- Reads a program that is one expression. -/
def soleExpression (expr : Rank → Parse Expr) : Parse Expr := do
  let plain : Parse Expr := do
    let e ← expr .whole
    match ← moreItems (expr .whole) beginsExpression e with
    | ([e], false, _) => return e
    | (es, _, _) => return .tuple es
  let e ← plain
  let _ ← many isNewline advance
  match ← peek with
  | .stop => return e
  | _ => refuse

end HtmlTemplate.Script.Grammar
