import HtmlTemplate.Script.Grammar.Placement
import HtmlTemplate.Script.Grammar.Statement

/-!
# Reading programs

`readProgram` reads a whole program text, as an expression or as statements.
-/

namespace HtmlTemplate.Script

open HtmlTemplate.Text

/-- The two ways to read a program text. -/
inductive ReadMode
  | expression
  | script
deriving DecidableEq, Repr

open Grammar in
/-- Reads a program text. -/
def readProgram (mode : ReadMode) (source : String) : Except Flaw Program :=
  let fuel := 16 * (source.length + 4)
  let expr := expressionAt fuel
  if source.toList.any isSurrogate then .error .surrogate
  else if source.toList.contains '\x00' then .error .nullCharacter
  else match mode with
  | .expression => (soleExpression expr (tokens source)).map fun (e, _) => .expression e
  | .script => do
    let (body, _) ← script (lineAt expr fuel) (tokens source)
    if Placement.isWellPlaced body then return .script body else .error .malformed

end HtmlTemplate.Script
