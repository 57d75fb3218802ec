/-!
# Similar names

`closest` picks, out of a list of candidates, the one most similar to a word, for suggestions in
messages. The similarity of two texts is twice the number of their matching characters over the sum
of their lengths, where matching characters are found by taking the longest common block and
searching on both sides of it. In a long word the characters that fill more than a hundredth of it
do not start a block, though they extend one.
-/

namespace HtmlTemplate.Text

/-- Whether a character of the word `b` may start a block. -/
def startsBlock (b : Array Char) (c : Char) : Bool :=
  b.size < 200 || b.count c ≤ b.size / 100 + 1

/-- A common block: where it begins in either text, and its length. -/
structure Block where
  left : Nat
  right : Nat
  size : Nat

/-- The lengths of the common blocks that end at each place of the word, after one more character
`c` of the candidate, together with the best block seen. -/
def extendRuns (b : Array Char) (c : Char) (i lo hi : Nat) (runs : Array Nat) (best : Block) :
    Array Nat × Block :=
  (List.range (hi - lo)).foldl
    (fun (acc : Array Nat × Block) d =>
      let j := lo + d
      if b[j]? == some c && startsBlock b c then
        let k := (if d = 0 then 0 else runs.getD (d - 1) 0) + 1
        let best := if acc.2.size < k then ⟨i + 1 - k, j + 1 - k, k⟩ else acc.2
        (acc.1.push k, best)
      else (acc.1.push 0, acc.2))
    (#[], best)

/-- Number of equal characters before two places, down to the given bounds. -/
def agreeBefore (a b : Array Char) (alo blo : Nat) : Nat → Nat → Nat
  | i + 1, j + 1 =>
    if alo ≤ i ∧ blo ≤ j ∧ a[i]? = b[j]? then agreeBefore a b alo blo i j + 1 else 0
  | _, _ => 0

/-- Number of equal characters from two places on, up to the given bounds. -/
def agreeAfter (a b : Array Char) (ahi bhi i j : Nat) : Nat :=
  if h : i < ahi ∧ j < bhi ∧ a[i]? = b[j]? then agreeAfter a b ahi bhi (i + 1) (j + 1) + 1 else 0
termination_by ahi - i

/-- The longest common block of two stretches, the earliest in the candidate and then in the word. -/
def longestBlock (a b : Array Char) (alo ahi blo bhi : Nat) : Block :=
  let start : Array Nat × Block := (Array.replicate (bhi - blo) 0, ⟨alo, blo, 0⟩)
  let found := (List.range (ahi - alo)).foldl
    (fun (acc : Array Nat × Block) d =>
      let i := alo + d
      match a[i]? with
      | none => acc
      | some c => extendRuns b c i blo bhi acc.1 acc.2)
    start
  let best := found.2
  let back := agreeBefore a b alo blo best.left best.right
  let ahead := agreeAfter a b ahi bhi (best.left + best.size) (best.right + best.size)
  ⟨best.left - back, best.right - back, back + best.size + ahead⟩

/-- Number of matching characters of two stretches. The first argument bounds the depth of the
search; the length of either stretch is enough. -/
def matching (a b : Array Char) : Nat → Nat → Nat → Nat → Nat → Nat
  | 0, _, _, _, _ => 0
  | depth + 1, alo, ahi, blo, bhi =>
    let m := longestBlock a b alo ahi blo bhi
    if m.size = 0 then 0
    else
      let left :=
        if alo < m.left ∧ blo < m.right then matching a b depth alo m.left blo m.right else 0
      let right :=
        if m.left + m.size < ahi ∧ m.right + m.size < bhi then
          matching a b depth (m.left + m.size) ahi (m.right + m.size) bhi
        else 0
      left + m.size + right

/-- The similarity of a candidate to a word as a numerator and a denominator. -/
def similarity (candidate word : String) : Nat × Nat :=
  let a := candidate.toList.toArray
  let b := word.toList.toArray
  if a.size + b.size = 0 then (1, 1)
  else (2 * matching a b (a.size + 1) 0 a.size 0 b.size, a.size + b.size)

/-- Whether the fraction `x` is less than the fraction `y`. -/
def ratioLt (x y : Nat × Nat) : Bool :=
  x.1 * y.2 < y.1 * x.2

/-- The candidate most similar to `word`, if one is similar to three fifths; among equally similar
ones the last in the order of their code points. -/
def closest (word : String) (candidates : List String) : Option String :=
  let scored := candidates.map fun c => (similarity c word, c)
  let close := scored.filter fun s => !ratioLt s.1 (3, 5)
  let best := close.foldl
    (fun (acc : Option ((Nat × Nat) × String)) s =>
      match acc with
      | none => some s
      | some t => if ratioLt t.1 s.1 || (!ratioLt s.1 t.1 && t.2 < s.2) then some s else some t)
    none
  best.map (·.2)

end HtmlTemplate.Text
