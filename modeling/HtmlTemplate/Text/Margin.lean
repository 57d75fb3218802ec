/-!
# Margins

The margin of a text is the longest row of spaces and tabs that all its lines begin with, lines of
nothing but spaces and tabs aside. `dedent` removes it.
-/

namespace HtmlTemplate.Text

/-- The lines of a text, without the line feeds between them. -/
def lines : List Char → List (List Char)
  | [] => [[]]
  | c :: cs =>
    if c == '\n' then [] :: lines cs
    else match lines cs with
      | [] => [[c]]
      | l :: ls => (c :: l) :: ls

/-- Lines with line feeds between them. -/
def unlines (ls : List (List Char)) : List Char := List.intercalate ['\n'] ls

/-- Characters that indent a line. -/
def indents (c : Char) : Bool := c == ' ' || c == '\t'

/-- The longest row that two texts begin with. -/
def commonStart : List Char → List Char → List Char
  | a :: as, b :: bs => if a = b then a :: commonStart as bs else []
  | _, _ => []

/-- The margin of lines. -/
def margin (ls : List (List Char)) : List Char :=
  match (ls.filter fun l => !l.all indents).map (·.takeWhile indents) with
  | [] => []
  | first :: rest => rest.foldl commonStart first

/-- A text without its margin, and with its blank lines empty. -/
def dedent (s : String) : String :=
  let ls := lines s.toList
  let width := (margin ls).length
  String.ofList (unlines (ls.map fun l => if l.all indents then [] else l.drop width))

end HtmlTemplate.Text
