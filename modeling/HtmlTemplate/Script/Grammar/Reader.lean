import HtmlTemplate.Script.Token

/-!
# Readers

A `Parse` takes tokens off the front of a list or fails with a flaw. Here are the readers of single
tokens and of repetitions, from which the grammar of expressions and statements is made.
-/

namespace HtmlTemplate.Script

/-- Readers of tokens. -/
abbrev Parse := StateT (List Token) (Except Flaw)

namespace Grammar

variable {α : Type}

/-! ### Single tokens -/

/-- The flaw of a text that does not go on as it should. -/
def flawAt : List Token → Flaw
  | .flawed flaw :: _ => flaw
  | .indent :: _ => .misindented
  | .dedent :: _ => .misindented
  | _ => .malformed

/-- Fails at the next token. -/
def refuse : Parse α := fun ts => .error (flawAt ts)

/-- Fails whatever the next token is. -/
def malformed : Parse α := fun _ => .error .malformed

/-- The next token. -/
def peek : Parse Token := fun ts => .ok (ts.headD .stop, ts)

/-- The token after the next one. -/
def peekSecond : Parse Token := fun ts => .ok ((ts.drop 1).headD .stop, ts)

/-- Passes over the next token. -/
def advance : Parse Unit := fun ts => .ok ((), ts.drop 1)

/-- Whether a token is the given sign. -/
def isSign (s : String) : Token → Bool
  | .sign t => t == s
  | _ => false

/-- Whether a token is the given word. -/
def isWord (w : String) : Token → Bool
  | .word t => t == w
  | _ => false

/-- Whether a token is a name. -/
def isName : Token → Bool
  | .name _ => true
  | _ => false

/-- Whether a token is the end of a line. -/
def isNewline : Token → Bool
  | .newline => true
  | _ => false

/-- Whether a token is the start of a block. -/
def isIndent : Token → Bool
  | .indent => true
  | _ => false

/-- Whether a token is the end of a block. -/
def isDedent : Token → Bool
  | .dedent => true
  | _ => false

/-- Passes over the next token if it is as wanted. -/
def accept (wanted : Token → Bool) : Parse Bool := do
  if wanted (← peek) then
    advance
    return true
  else return false

/-- Passes over the next token, which has to be as wanted. -/
def expect (wanted : Token → Bool) : Parse Unit := do
  unless ← accept wanted do refuse

/-- Reads a name. -/
def expectName : Parse String := do
  match ← peek with
  | .name n =>
    advance
    return n
  | _ => refuse

/-- Reads something, or something else in its place when that fails. -/
def either (x y : Parse α) : Parse α := fun ts =>
  match x ts with
  | .ok r => .ok r
  | .error _ => y ts

/-! ### Repetition -/

/-- Goes on for as long as there is more, at most the given number of times. -/
def extend (more : α → Parse (Option α)) : Nat → α → Parse α
  | 0, a => pure a
  | n + 1, a => do
    match ← more a with
    | none => return a
    | some b => extend more n b

/-- Goes on for as long as there is more; each time takes a token. -/
def extendAll (more : α → Parse (Option α)) (a : α) : Parse α := do
  extend more ((← get).length + 1) a

/-- Reads for as long as the next token is as wanted. -/
def many (wanted : Token → Bool) (item : Parse α) : Parse (List α) := do
  if wanted (← peek) then
    let found ← extendAll (fun found => do
      if wanted (← peek) then return some ((← item) :: found) else return none) []
    return found.reverse
  else return []

/-- Reads the items that follow a first one after commas, and whether there was a comma and whether
the last one has no item after it. -/
def moreItems (item : Parse α) (begins : Token → Bool) (first : α) :
    Parse (List α × Bool × Bool) := do
  if isSign "," (← peek) then
    let (items, ended) ← extendAll (fun (items, ended) => do
      if ended then return none
      else if ← accept (isSign ",") then
        if begins (← peek) then return some ((← item) :: items, false)
        else return some (items, true)
      else return none) ([first], false)
    return (items.reverse, true, ended)
  else return ([first], false, false)

/-- Reads items with commas between them, none after the last. -/
def separated (item : Parse α) : Parse (List α) := do
  return (← moreItems item (fun _ => true) (← item)).1

end Grammar

end HtmlTemplate.Script
