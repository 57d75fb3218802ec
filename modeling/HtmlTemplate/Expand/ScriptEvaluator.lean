import HtmlTemplate.Expand.Evaluator
import HtmlTemplate.Script.Interpret

/-!
# The evaluator of scripts

`scriptEvaluator` is the evaluator whose language is that of `HtmlTemplate.Script`.
-/

namespace HtmlTemplate.Expand

open HtmlTemplate.Script

/-- A computation of the script language as one of an evaluator. -/
def ofRun {α : Type} (x : Run α) : Act World α := fun w =>
  let (result, w') := x w
  (result.mapError Fault.ofRaised, w')

/-- What a value is to a template. -/
def valueKind : Value → ValueKind
  | .nothing => .absent
  | .bool false => .absent
  | .bool true => .present
  | .str _ s => .text s
  | _ => .other

/-- The number of members of a sequence; texts and rows of bytes do not count as such. -/
def sequenceLength? (v : Value) (w : World) : Option Nat :=
  match v with
  | .tuple _ items => some items.length
  | .range _ a b c => some (Datum.rangeLength a b c)
  | .object n =>
    match w.object n with
    | .list items => some items.length
    | _ => none
  | _ => none

/-- The member of a sequence at a position. -/
def sequenceMember? (v : Value) (position : Nat) : Run (Option Value) := do
  match v with
  | .tuple _ items => return items[position]?
  | .range _ a b c =>
    if position < Datum.rangeLength a b c then return some (← newInt (a + position * c))
    else return none
  | .object n =>
    match ← objectAt n with
    | .list items => return items[position]?
    | _ => return none
  | _ => return none

/-- The props with a number. -/
def propsAt? (v : Value) (w : World) : Option (Nat × Props) :=
  match v with
  | .object n =>
    match w.object n with
    | .props p => some (n, p)
    | _ => none
  | _ => none

/-- The evaluator of scripts. -/
def scriptEvaluator : Evaluator Value World where
  evaluate source scope := ofRun (evaluate source scope)
  evaluateUncaught := ofRun evaluateMissing
  execute source scope := ofRun (execute source scope)
  kind := valueKind
  truth v w := v.truth w
  text v := ofRun (textOf v)
  same a b w := a.same b || (a.datum w).strictEqual (b.datum w)
  length? := sequenceLength?
  member? v position := ofRun (sequenceMember? v position)
  shown v := ofRun do return ⟨"value", ← shown v, ← typeOf v⟩
  openProps attrs scope w :=
    (.object w.objects.size,
      { w with objects := w.objects.push (.props { attrs := attrs, scope := scope }) })
  leftover v w := ((propsAt? v w).map fun p => p.2.attrs).getD []
  closeProps v w :=
    match propsAt? v w with
    | some (n, p) =>
      { w with objects := w.objects.setIfInBounds n (.props { p with closed := true }) }
    | none => w

end HtmlTemplate.Expand
