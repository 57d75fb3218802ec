import HtmlTemplate.Text.NameTable
import HtmlTemplate.Text.Search

/-!
# Character names

`characterNamed?` finds the character of a name. Names are those of the table and the regular ones
of the ideographs that Chinese, Japanese and Korean share.
-/

namespace HtmlTemplate.Text

/-- The place of a name among rows of names that are set apart by semicolons. -/
def placeOfName? (name : List Char) (rows : List String) : Option Nat :=
  (rows.flatMap fun row => splitAtPart [';'] row.length row.toList).findIdx? (· == name)

/-- The code point at the end of the regular name of an ideograph. -/
def ideographNamed? (name : String) : Option Nat :=
  let digits := (name.toList.drop "CJK UNIFIED IDEOGRAPH-".length).map fun c =>
    if c.isDigit then c.toNat - '0'.toNat else c.toNat - 'A'.toNat + 10
  if name.startsWith "CJK UNIFIED IDEOGRAPH-" && (digits.length == 4 || digits.length == 5) &&
    digits.all (· < 16) then
    let n := digits.foldl (fun n d => 16 * n + d) 0
    if (0x3400 ≤ n ∧ n ≤ 0x4dbf) ∨ (0x4e00 ≤ n ∧ n ≤ 0x9fff) ∨ (0x20000 ≤ n ∧ n ≤ 0x2a6df) then some n
    else none
  else none

/-- The code point of the character with a name; letter case does not matter. -/
def characterNamed? (name : String) : Option Nat :=
  let name := String.ofList (name.toList.map Char.toUpper)
  (characterAliases.lookup name).or <| (ideographNamed? name).or <|
    characterNames.findSome? fun block =>
      (placeOfName? name.toList block.2).map (block.1 + ·)

end HtmlTemplate.Text
