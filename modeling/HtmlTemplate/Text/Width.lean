/-!
# Texts of a width

Filling texts up to a width, in front, behind or on both sides, the columns that tabs lead to, and
the lines of a text with any of the marks that end lines.
-/

namespace HtmlTemplate.Text

/-- So many copies of a character before a text and after it. -/
def padded (fill : Char) (before after : Nat) (cs : List Char) : List Char :=
  List.replicate before fill ++ cs ++ List.replicate after fill

/-- A text in the middle of a width. An odd place more goes to the end, or to the front when the
width is odd. -/
def centered (fill : Char) (width : Nat) (cs : List Char) : List Char :=
  let missing := width - cs.length
  let before := missing / 2 + (if missing % 2 = 1 ∧ width % 2 = 1 then 1 else 0)
  padded fill before (missing - before) cs

/-- A text with zeros between its sign and the rest, up to a width. -/
def zeroFilled (width : Nat) (cs : List Char) : List Char :=
  let zeros := List.replicate (width - cs.length) '0'
  match cs with
  | c :: rest => if c == '+' || c == '-' then c :: zeros ++ rest else zeros ++ cs
  | [] => zeros

/-- A text with spaces in the place of each tab, up to the next column that is a multiple of `size`;
`column` is the one that the text begins at. -/
def tabsExpanded (size column : Nat) : List Char → List Char
  | [] => []
  | c :: cs =>
    if c == '\t' then
      let width := if size = 0 then 0 else size - column % size
      List.replicate width ' ' ++ tabsExpanded size (column + width) cs
    else c :: tabsExpanded size (if c == '\n' || c == '\r' then 0 else column + 1) cs

/-- Whether a character ends a line. -/
def endsLine (c : Char) : Bool :=
  let n := c.toNat
  (0x0a ≤ n && n ≤ 0x0d) || (0x1c ≤ n && n ≤ 0x1e) || n == 0x85 || n == 0x2028 || n == 0x2029

/-- The lines of a text, with the marks that end them or without; a carriage return and a line feed
end a line together. -/
def splitLines (keep : Bool) : List Char → List (List Char)
  | [] => []
  | c :: cs =>
    if c == '\r' && cs.head? == some '\n' then
      match splitLines keep cs with
      | l :: ls => (if keep then '\r' :: l else l) :: ls
      | [] => [if keep then [c] else []]
    else if endsLine c then (if keep then [c] else []) :: splitLines keep cs
    else
      match cs with
      | [] => [[c]]
      | _ :: _ =>
        match splitLines keep cs with
        | l :: ls => (c :: l) :: ls
        | [] => [[c]]

end HtmlTemplate.Text
