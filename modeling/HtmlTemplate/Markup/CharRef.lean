import HtmlTemplate.Bindings
import HtmlTemplate.Markup.CharNameTable

/-!
# Character references

`decodeRefs` replaces the character references of a text by the characters they stand for. A
reference is numeric, decimal or hexadecimal, or a name; the semicolon at its end may be missing,
and of an unknown name the longest beginning counts that is known without a semicolon. What is no
reference stays as it is.
-/

namespace HtmlTemplate.Markup

/-- The names of the characters that markup itself uses. -/
def markupNames : Bindings String :=
  [("amp", "&"), ("lt", "<"), ("gt", ">"), ("quot", "\"")]

/-- The number that hexadecimal digits denote. -/
def hexNumber (cs : List Char) : Nat :=
  cs.foldl (fun n c =>
    16 * n + (if c.isDigit then c.toNat - 48
      else if 'a' ≤ c then c.toNat - 87 else c.toNat - 55)) 0

/-- The number that decimal digits denote. -/
def decimalNumber (cs : List Char) : Nat :=
  cs.foldl (fun n c => 10 * n + (c.toNat - 48)) 0

/-- Reads an entry `name=digits+digits` of the table. -/
def readCharName (row : String) : Option (String × String) :=
  match row.splitOn "=" with
  | [name, codes] =>
    some (name, String.ofList ((codes.splitOn "+").map fun code => Char.ofNat (hexNumber code.toList)))
  | _ => none

/-- All names with their characters. -/
def charNames : Bindings String :=
  markupNames ++
    ((charNameRows.split Char.isWhitespace).toList.map (·.toString)).filterMap readCharName

/-- The names that are known without a semicolon. -/
def bareNameList : List String :=
  markupNames.map (·.1) ++ (bareNames.split Char.isWhitespace).toList.map (·.toString)

/-- The characters of a name that no semicolon follows. -/
def bareChar? (name : String) : Option String :=
  if bareNameList.contains name then charNames.get? name else none

/-- Whether `n` is the code of no character that a reference may name. -/
def isForbiddenCode (n : Nat) : Bool :=
  (1 ≤ n && n ≤ 8) || n == 0xb || (0xe ≤ n && n ≤ 0x1f) || n == 0x7f ||
    (0xfdd0 ≤ n && n ≤ 0xfdef) || n % 0x10000 == 0xfffe || n % 0x10000 == 0xffff

/-- What the codes 128 to 159 stand for: the characters of the Windows code page, where it has
one. -/
def windowsCodes : List Nat :=
  [0x20ac, 0x81, 0x201a, 0x192, 0x201e, 0x2026, 0x2020, 0x2021, 0x2c6, 0x2030, 0x160, 0x2039, 0x152,
    0x8d, 0x17d, 0x8f, 0x90, 0x2018, 0x2019, 0x201c, 0x201d, 0x2022, 0x2013, 0x2014, 0x2dc, 0x2122,
    0x161, 0x203a, 0x153, 0x9d, 0x17e, 0x178]

/-- The characters that a numeric reference stands for. -/
def charsOfCode (n : Nat) : List Char :=
  if n = 0 then [Char.ofNat 0xfffd]
  else if 0x80 ≤ n ∧ n ≤ 0x9f then [Char.ofNat (windowsCodes.getD (n - 0x80) n)]
  else if (0xd800 ≤ n ∧ n ≤ 0xdfff) ∨ 0x10ffff < n then [Char.ofNat 0xfffd]
  else if isForbiddenCode n then []
  else [Char.ofNat n]

/-- Whether a name may go on with a character. -/
def isNameChar (c : Char) : Bool :=
  !(c == '\t' || c == '\n' || c == '\x0c' || c == ' ' || c == '<' || c == '&' || c == '#' || c == ';')

def isHexDigit (c : Char) : Bool :=
  c.isDigit || ('a' ≤ c && c ≤ 'f') || ('A' ≤ c && c ≤ 'F')

/-- One if a semicolon is next, and zero otherwise. -/
def semicolonLength (cs : List Char) : Nat :=
  if cs.head? = some ';' then 1 else 0

/-- The longest beginning of an unknown name that is known, with what is left of the name. -/
def longestBareName (name : List Char) : Option (List Char) :=
  (List.range (name.length - 2)).findSome? fun d =>
    let k := name.length - 1 - d
    (bareChar? (String.ofList (name.take k))).map fun s => s.toList ++ name.drop k

/-- What a name stands for; the name ends with its semicolon if it has one. -/
def charsOfName (name : List Char) : List Char :=
  let known :=
    if name.getLast? = some ';' then charNames.get? (String.ofList name.dropLast)
    else bareChar? (String.ofList name)
  match known with
  | some s => s.toList
  | none => (longestBareName name).getD ('&' :: name)

/-- The reference that follows an ampersand: what it stands for, and its length. -/
def refAt (cs : List Char) : Option (List Char × Nat) :=
  match cs with
  | '#' :: ds =>
    let digits := ds.takeWhile Char.isDigit
    if !digits.isEmpty then
      some (charsOfCode (decimalNumber digits),
        1 + digits.length + semicolonLength (ds.drop digits.length))
    else match ds with
      | x :: hs =>
        let digits := hs.takeWhile isHexDigit
        if (x == 'x' || x == 'X') && !digits.isEmpty then
          some (charsOfCode (hexNumber digits),
            2 + digits.length + semicolonLength (hs.drop digits.length))
        else none
      | [] => none
  | _ =>
    let name := (cs.takeWhile isNameChar).take 32
    if name.isEmpty then none
    else
      let length := name.length + semicolonLength (cs.drop name.length)
      some (charsOfName (cs.take length), length)

/-- Replaces the character references of a text. -/
def decodeRefs : List Char → List Char
  | [] => []
  | c :: cs =>
    if c = '&' then
      match refAt cs with
      | some (chars, length) => chars ++ decodeRefs (cs.drop length)
      | none => '&' :: decodeRefs cs
    else c :: decodeRefs cs
termination_by cs => cs.length
decreasing_by all_goals (simp only [List.length_drop, List.length_cons]; omega)

end HtmlTemplate.Markup
