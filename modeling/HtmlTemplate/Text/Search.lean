import HtmlTemplate.Text.Blank

/-!
# Search in texts

Occurrences of one text in another, from the left and without overlap. `cutAt` splits a text at the
first occurrence, and counting, splitting and replacing repeat that.
-/

namespace HtmlTemplate.Text

/-- The text before and after the first occurrence of `part`. -/
def cutAt (part : List Char) : List Char → Option (List Char × List Char)
  | [] => if part.isEmpty then some ([], []) else none
  | c :: cs =>
    if part.isPrefixOf (c :: cs) then some ([], (c :: cs).drop part.length)
    else (cutAt part cs).map fun (before, after) => (c :: before, after)

/-- The place of the first occurrence of `part`. -/
def placeOf? (part whole : List Char) : Option Nat :=
  (cutAt part whole).map (·.1.length)

/-- The pieces between the first `times` occurrences of a part that is not empty. -/
def splitAtPart (part : List Char) : Nat → List Char → List (List Char)
  | 0, cs => [cs]
  | times + 1, cs =>
    match cutAt part cs with
    | none => [cs]
    | some (before, after) => before :: splitAtPart part times after

/-- The number of occurrences of `part`; an empty one occurs everywhere. -/
def occurrences (part whole : List Char) : Nat :=
  if part.isEmpty then whole.length + 1
  else (splitAtPart part whole.length whole).length - 1

/-- A text with `new` before each of its first `times` characters, and at its end. -/
def interleave (new : List Char) : Nat → List Char → List Char
  | 0, cs => cs
  | _ + 1, [] => new
  | times + 1, c :: cs => new ++ c :: interleave new times cs

/-- Replaces the first `times` occurrences of `old`. -/
def replaceParts (old new : List Char) (times : Nat) (cs : List Char) : List Char :=
  if old.isEmpty then interleave new times cs
  else new.intercalate (splitAtPart old times cs)

/-- The text before and after the last occurrence of `part`. -/
def cutAtLast (part whole : List Char) : Option (List Char × List Char) :=
  (cutAt part.reverse whole.reverse).map fun (after, before) => (before.reverse, after.reverse)

/-- The place of the last occurrence of `part`. -/
def lastPlaceOf? (part whole : List Char) : Option Nat :=
  (cutAtLast part whole).map (·.1.length)

/-- The pieces between the last `times` occurrences of a part that is not empty. -/
def splitAtLastPart (part : List Char) (times : Nat) (cs : List Char) : List (List Char) :=
  ((splitAtPart part.reverse times cs.reverse).map List.reverse).reverse

/-- The words of a text between characters that are `blank`; after the first `times` the rest counts
as one. -/
def firstWords (blank : Char → Bool) (times : Nat) (cs : List Char) : List (List Char) :=
  match cs.dropWhile blank with
  | [] => []
  | c :: cs =>
    match times with
    | 0 => [c :: cs]
    | times + 1 =>
      let (word, rest) := (c :: cs).span fun c => !blank c
      word :: firstWords blank times rest

/-- The words of a text; what stands before the last `times` counts as one. -/
def lastWords (blank : Char → Bool) (times : Nat) (cs : List Char) : List (List Char) :=
  ((firstWords blank times cs.reverse).map List.reverse).reverse

end HtmlTemplate.Text
