import HtmlTemplate.Text.Letter
import HtmlTemplate.Text.Blank

/-!
# Search patterns

A `Pattern` is a regular expression with numbered groups. Options use one to find the expressions
in a text, and merge strategies use one to select attributes by name. Matching backtracks: of
several ways to match at a place the first one counts, where a greedy repetition prefers more turns
and a lazy one fewer. `Pattern.pieces` cuts a text into its matches and what lies between them.
-/

namespace HtmlTemplate.Text

/-- One member of a character class. -/
inductive ClassItem
  | range (lo hi : Char)
  | word (wanted : Bool)
  | digit (wanted : Bool)
  | blank (wanted : Bool)

/-- Whether the member admits a character. -/
def ClassItem.admits (c : Char) : ClassItem → Bool
  | .range lo hi => lo ≤ c && c ≤ hi
  | .word wanted => isWordChar c == wanted
  | .digit wanted => isDecimal c == wanted
  | .blank wanted => isBlank c == wanted

/-- Regular expressions with numbered groups. -/
inductive Regex
  | nothing
  | char (c : Char)
  | anyChar
  | oneOf (items : List ClassItem) (wanted : Bool)
  | start
  | stop
  | wordEdge (wanted : Bool)
  | andThen (first second : Regex)
  | either (first second : Regex)
  | group (index : Nat) (body : Regex)
  | repeated (body : Regex) (least : Nat) (most? : Option Nat) (greedy : Bool)

/-- A place in the text under search, with what the groups have caught so far. -/
structure Cursor where
  index : Nat
  last? : Option Char
  rest : List Char
  caught : List (Nat × List Char)

namespace Cursor

/-- The place after the next character. -/
def next? (cur : Cursor) : Option (Char × Cursor) :=
  match cur.rest with
  | [] => none
  | c :: cs => some (c, ⟨cur.index + 1, some c, cs, cur.caught⟩)

/-- Steps over one character that satisfies `p`. -/
def accept {α : Type} (p : Char → Bool) (cur : Cursor) (done : Cursor → Option α) : Option α :=
  match cur.next? with
  | some (c, cur') => if p c then done cur' else none
  | none => none

/-- Whether the place lies between a word character and another one. -/
def atWordEdge (cur : Cursor) : Bool :=
  (cur.last?.any isWordChar) != (cur.rest.head?.any isWordChar)

end Cursor

/-- Turns of a repetition, at most `fuel` of them; a turn that does not move on ends it. -/
def repeatMatch {α : Type} (turn : Cursor → (Cursor → Option α) → Option α) (greedy : Bool) :
    Nat → Nat → Option Nat → Cursor → (Cursor → Option α) → Option α
  | 0, _, _, cur, done => done cur
  | fuel + 1, least, most?, cur, done =>
    let again (_ : Unit) := turn cur fun cur' =>
      if least = 0 ∧ cur'.index = cur.index then none
      else repeatMatch turn greedy fuel (least - 1) (most?.map (· - 1)) cur' done
    if least > 0 then again ()
    else if most? = some 0 then done cur
    else if greedy then (again ()).orElse fun _ => done cur
    else (done cur).orElse again

/-- Matches an expression from a place on and hands every place where a match may end to `done`,
in order of preference, until it accepts one. -/
def Regex.run {α : Type} : Regex → Cursor → (Cursor → Option α) → Option α
  | .nothing, cur, done => done cur
  | .char c, cur, done => cur.accept (· == c) done
  | .anyChar, cur, done => cur.accept (· != '\n') done
  | .oneOf items wanted, cur, done =>
    cur.accept (fun c => items.any (ClassItem.admits c) == wanted) done
  | .start, cur, done => if cur.index = 0 then done cur else none
  | .stop, cur, done => if cur.rest = [] ∨ cur.rest = ['\n'] then done cur else none
  | .wordEdge wanted, cur, done => if cur.atWordEdge == wanted then done cur else none
  | .andThen a b, cur, done => a.run cur fun cur' => b.run cur' done
  | .either a b, cur, done => (a.run cur done).orElse fun _ => b.run cur done
  | .group i body, cur, done =>
    body.run cur fun cur' =>
      let text := cur.rest.take (cur'.index - cur.index)
      done { cur' with caught := (i, text) :: cur'.caught }
  | .repeated body least most? greedy, cur, done =>
    repeatMatch (body.run) greedy (least + cur.rest.length + 1) least most? cur done

/-- A compiled search pattern. -/
structure Pattern where
  /-- The text that the pattern was written as. -/
  source : String
  regex : Regex
  /-- The number of groups. -/
  groups : Nat

/-- A part of a searched text. -/
inductive Piece
  /-- Text between matches. -/
  | plain (text : String)
  /-- A match, with what its groups caught. -/
  | hit (caught : List (Nat × List Char))

/-- What the group `i` caught in a match. -/
def groupText? (caught : List (Nat × List Char)) (i : Nat) : Option String :=
  (caught.lookup i).map String.ofList

namespace Pattern

/-- The first match at or after a place, with the characters passed over before it. When `moving`,
an empty match at the place itself does not count. -/
def findFrom (p : Pattern) (moving : Bool) (index : Nat) (last? : Option Char) :
    List Char → List Char → Option (List Char × Cursor)
  | rest, passed =>
    let accept (cur : Cursor) : Option Cursor :=
      if moving && cur.index == index then none else some cur
    match p.regex.run ⟨index, last?, rest, []⟩ accept with
    | some cur => some (passed.reverse, cur)
    | none =>
      match rest with
      | [] => none
      | c :: cs => findFrom p false (index + 1) (some c) cs (c :: passed)

/-- The pieces of a text from a place on. -/
def piecesFrom (p : Pattern) (moving : Bool) (index : Nat) (last? : Option Char)
    (rest : List Char) : List Piece :=
  match p.findFrom moving index last? rest [] with
  | none => if rest.isEmpty then [] else [.plain (String.ofList rest)]
  | some (passed, cur) =>
    let here := if passed.isEmpty then [] else [Piece.plain (String.ofList passed)]
    let empty := cur.index == index + passed.length
    if _h : 2 * cur.rest.length + (!empty).toNat < 2 * rest.length + (!moving).toNat then
      here ++ .hit cur.caught :: piecesFrom p empty cur.index cur.last? cur.rest
    else here
termination_by 2 * rest.length + (!moving).toNat

/-- Cuts a text into the matches of the pattern and what lies between them. -/
def pieces (p : Pattern) (s : String) : List Piece :=
  p.piecesFrom false 0 none s.toList

/-- Whether the pattern matches anywhere in a text. -/
def occursIn (p : Pattern) (s : String) : Bool :=
  (p.findFrom false 0 none s.toList []).isSome

end Pattern

end HtmlTemplate.Text
