import HtmlTemplate.Text.Letter

/-!
# Names of components and attributes

`kebabCase` brings a component name into the form under which it is registered, and `splitColons`
cuts an attribute name into segments at its colons.
-/

namespace HtmlTemplate.Naming

open HtmlTemplate.Text

def isSmall (c : Char) : Bool := 'a' ≤ c && c ≤ 'z'

def isCapital (c : Char) : Bool := 'A' ≤ c && c ≤ 'Z'

/-- The kinds of words in a name: small letters, one capital with small letters, capitals, digits. -/
inductive WordKind
  | small
  | capitals
  | digits

/-- The kind of word that a character begins or continues. -/
def wordKind? (c : Char) : Option WordKind :=
  if isSmall c then some .small
  else if isCapital c then some .capitals
  else if isDecimal c then some .digits
  else none

/-- Cuts the word off that begins with `c`: a capital takes the small letters that follow it, or
else the capitals. -/
def cutWord (c : Char) (cs : List Char) : List Char × List Char :=
  match wordKind? c with
  | some .small => (c :: cs.takeWhile isSmall, cs.dropWhile isSmall)
  | some .digits => (c :: cs.takeWhile isDecimal, cs.dropWhile isDecimal)
  | some .capitals =>
    if (cs.takeWhile isSmall).isEmpty then (c :: cs.takeWhile isCapital, cs.dropWhile isCapital)
    else (c :: cs.takeWhile isSmall, cs.dropWhile isSmall)
  | none => ([], cs)

theorem length_cutWord_le (c : Char) (cs : List Char) : (cutWord c cs).2.length ≤ cs.length := by
  have h (p : Char → Bool) : (cs.dropWhile p).length ≤ cs.length :=
    (List.dropWhile_suffix p).length_le
  unfold cutWord
  split
  · exact h _
  · exact h _
  · split
    · exact h _
    · exact h _
  · exact Nat.le_refl _

/-- The words of a name from left to right; other characters separate them. -/
def nameWords : List Char → List (List Char)
  | [] => []
  | c :: cs =>
    match wordKind? c with
    | none => nameWords cs
    | some _ => (cutWord c cs).1 :: nameWords (cutWord c cs).2
termination_by cs => cs.length
decreasing_by
  · simp
  · have := length_cutWord_le c cs
    simp only [List.length_cons]
    omega

/-- One segment of a component name in small words joined by hyphens; a segment without words is
only made small. -/
def kebabSegment (segment : List Char) : String :=
  match nameWords segment with
  | [] => lowercase (String.ofList segment)
  | ws => lowercase (String.intercalate "-" (ws.map String.ofList))

/-- Cuts a text at every occurrence of `sep`. -/
def splitAt (sep : Char) : List Char → List (List Char)
  | [] => [[]]
  | c :: cs =>
    if c = sep then [] :: splitAt sep cs
    else match splitAt sep cs with
      | [] => [[c]]
      | s :: ss => (c :: s) :: ss

/-- A component name in its registered form, segment by segment between dots. -/
def kebabCase (name : String) : String :=
  String.intercalate "." ((splitAt '.' name.toList).map kebabSegment)

/-! ### Colons -/

/-- Every way to write a text as a head that is not empty, a colon and a tail, shortest head first. -/
def colonCuts : List Char → List (List Char × List Char)
  | [] => []
  | c :: cs =>
    let later := (colonCuts cs).map fun cut => (c :: cut.1, cut.2)
    match cs with
    | ':' :: tail => ([c], tail) :: later
    | _ => later

/-- Cuts a text into `k + 1` segments that are not empty, each but the last as short as can be. -/
def colonSegments : Nat → List Char → Option (List (List Char))
  | 0, cs => if cs.isEmpty then none else some [cs]
  | k + 1, cs =>
    (colonCuts cs).findSome? fun cut => (colonSegments k cut.2).map (cut.1 :: ·)

/-- Cuts an attribute name into `count` segments at colons; the last one keeps what is left. -/
def splitColons (count : Nat) (name : String) : Option (List String) :=
  (colonSegments (count - 1) name.toList).map (·.map String.ofList)

end HtmlTemplate.Naming
