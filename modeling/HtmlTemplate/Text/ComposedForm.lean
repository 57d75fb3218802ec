import HtmlTemplate.Text.Blank
import HtmlTemplate.Text.ComposedTable
import HtmlTemplate.Text.Search

/-!
# Composed forms

`composedForm` rewrites a text so that texts which differ only in how their characters are encoded
become the same: `decompose` puts the plainest characters in the place of ligatures, raised letters
and the like and takes letters and their marks apart, `orderMarks` brings the marks of a letter into
a fixed order, and `compose` joins letters and marks again where one character stands for both.
-/

namespace HtmlTemplate.Text

/-- The value of a digit of base sixteen with small letters. -/
def hexDigitValue (c : Char) : Nat :=
  if c.isDigit then c.toNat - '0'.toNat else c.toNat - 'a'.toNat + 10

/-- The records of a table: set apart by blanks, with numbers of base sixteen set apart by points. -/
def hexRecords (table : List String) : List (List Nat) :=
  (table.flatMap fun row => words row.toList).map fun record =>
    (splitAtPart ['.'] record.length record).map fun digits =>
      digits.foldl (fun n c => 16 * n + hexDigitValue c) 0

/-! ### Syllables -/

/-- The parts of a syllable of the Korean script: a consonant, a vowel and perhaps a consonant. -/
def syllableParts? (n : Nat) : Option (List Nat) :=
  if 0xac00 ≤ n ∧ n ≤ 0xd7a3 then
    let i := n - 0xac00
    let final := i % 28
    some ([0x1100 + i / 588, 0x1161 + i % 588 / 28] ++
      (if final = 0 then [] else [0x11a7 + final]))
  else none

/-- The syllable that two parts make. -/
def syllable? (a b : Nat) : Option Nat :=
  if 0x1100 ≤ a ∧ a ≤ 0x1112 ∧ 0x1161 ≤ b ∧ b ≤ 0x1175 then
    some (0xac00 + ((a - 0x1100) * 21 + (b - 0x1161)) * 28)
  else if 0xac00 ≤ a ∧ a ≤ 0xd7a3 ∧ (a - 0xac00) % 28 = 0 ∧ 0x11a8 ≤ b ∧ b ≤ 0x11c2 then
    some (a + (b - 0x11a7))
  else none

/-! ### Taking characters apart -/

/-- One step of taking a character apart: its letter and its mark, or what it stands for. -/
def plainer? (n : Nat) : Option (List Nat) :=
  (syllableParts? n).or <|
    ((hexRecords composedPairs).findSome? fun record =>
      match record with
      | [a, b, c] => if c = n then some [a, b] else none
      | _ => none).or <|
    ((hexRecords plainRuns).findSome? fun record =>
      match record with
      | [first, plain, count] =>
        if first ≤ n ∧ n < first + count then some [plain + (n - first)] else none
      | _ => none).or <|
    (hexRecords longForms).findSome? fun record =>
      match record with
      | c :: form => if c = n then some form else none
      | [] => none

/-- The plainest characters that a character stands for; `steps` bounds how often it is taken
apart. -/
def decompose : Nat → Nat → List Nat
  | 0, n => [n]
  | steps + 1, n =>
    match plainer? n with
    | none => [n]
    | some parts => parts.flatMap (decompose steps)

/-! ### Marks -/

/-- The class of a combining mark; other characters have class zero. -/
def markClass (n : Nat) : Nat :=
  ((hexRecords markRuns).findSome? fun record =>
    match record with
    | [first, last, k] => if first ≤ n ∧ n ≤ last then some k else none
    | _ => none).getD 0

/-- Puts a character with its class before the marks of a higher class. -/
def insertMark (mark : Nat × Nat) : List (Nat × Nat) → List (Nat × Nat)
  | [] => [mark]
  | next :: rest =>
    if next.2 ≠ 0 ∧ next.2 < mark.2 then next :: insertMark mark rest else mark :: next :: rest

/-- Characters with their classes, the marks of each letter in the order of their classes. -/
def orderMarks : List (Nat × Nat) → List (Nat × Nat)
  | [] => []
  | c :: cs => if c.2 = 0 then c :: orderMarks cs else insertMark c (orderMarks cs)

/-! ### Putting characters together -/

/-- The character that two characters make. -/
def composite? (a b : Nat) : Option Nat :=
  (syllable? a b).or <|
    (hexRecords composedPairs).findSome? fun record =>
      match record with
      | [a', b', c] => if a' = a ∧ b' = b then some c else none
      | _ => none

/-- Joins characters to the letter before them; `held` are the marks since then that could not be
joined, the last one first. -/
def joinTo (letter : Nat) (held : List (Nat × Nat)) : List (Nat × Nat) → List Nat
  | [] => letter :: (held.reverse.map (·.1))
  | c :: cs =>
    let mayJoin := match held with
      | [] => true
      | h :: _ => h.2 < c.2
    match if mayJoin then composite? letter c.1 else none with
    | some joined => joinTo joined held cs
    | none =>
      if c.2 = 0 then letter :: (held.reverse.map (·.1)) ++ joinTo c.1 [] cs
      else joinTo letter (c :: held) cs

/-- Characters with letters and marks joined. -/
def compose : List (Nat × Nat) → List Nat
  | [] => []
  | c :: cs => if c.2 = 0 then joinTo c.1 [] cs else c.1 :: compose cs

/-- The composed form of a text; plain characters are their own. -/
def composedForm (s : String) : String :=
  if s.toList.all (·.toNat < 128) then s
  else
    let plain := s.toList.flatMap fun c => decompose 8 c.toNat
    String.ofList ((compose (orderMarks (plain.map fun n => (n, markClass n)))).map Char.ofNat)

end HtmlTemplate.Text
