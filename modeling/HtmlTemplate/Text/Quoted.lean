import HtmlTemplate.Text.Letter
import HtmlTemplate.Text.Surrogate

/-!
# Quoted texts

`quote` writes a text as a literal: between single quotes, or between double quotes when the text
holds a single quote and no double one. Backslashes, the chosen quote and characters without a
visible form are escaped, the latter by their code point with as many digits as it needs.
-/

namespace HtmlTemplate.Text

/-- Lower-case hexadecimal digits of `n`, filled up with zeros to `width`. -/
def hexDigits (width n : Nat) : List Char :=
  let digits := Nat.toDigits 16 n
  List.replicate (width - digits.length) '0' ++ digits

/-- The escape of a code point, with as many digits as it needs. -/
def escaped (n : Nat) : List Char :=
  if n ≤ 0xff then ['\\', 'x'] ++ hexDigits 2 n
  else if n ≤ 0xffff then ['\\', 'u'] ++ hexDigits 4 n
  else ['\\', 'U'] ++ hexDigits 8 n

/-- How a character is written inside quotes of the kind `mark`. -/
def quoteChar (mark c : Char) : List Char :=
  if c == mark || c == '\\' then ['\\', c]
  else if c == '\n' then ['\\', 'n']
  else if c == '\r' then ['\\', 'r']
  else if c == '\t' then ['\\', 't']
  else if isPrintable c then [c]
  else escaped (codePoint c)

/-- The quotation mark that a text is written with. -/
def quoteMark (cs : List Char) : Char :=
  if cs.contains '\'' && !cs.contains '"' then '"' else '\''

/-- A text as a quoted literal. -/
def quote (s : String) : String :=
  let cs := s.toList
  let mark := quoteMark cs
  String.ofList (mark :: cs.flatMap (quoteChar mark) ++ [mark])

/-- A text with an escape for each character beyond the first 128. -/
def escapeBeyond (s : String) : String :=
  String.ofList (s.toList.flatMap fun c => if c.toNat < 0x80 then [c] else escaped (codePoint c))

/-- How a byte is written inside quotes of the kind `mark`. -/
def quoteByte (mark : Char) (b : UInt8) : List Char :=
  let c := Char.ofNat b.toNat
  if c == mark || c == '\\' then ['\\', c]
  else if c == '\n' then ['\\', 'n']
  else if c == '\r' then ['\\', 'r']
  else if c == '\t' then ['\\', 't']
  else if 32 ≤ b.toNat && b.toNat < 127 then [c]
  else ['\\', 'x'] ++ hexDigits 2 b.toNat

/-- A row of bytes as a quoted literal, marked by a leading `b`. -/
def quoteBytes (bytes : List UInt8) : String :=
  let mark := quoteMark (bytes.map fun b => Char.ofNat b.toNat)
  String.ofList ('b' :: mark :: bytes.flatMap (quoteByte mark) ++ [mark])

end HtmlTemplate.Text
