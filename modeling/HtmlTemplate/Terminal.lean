/-!
# Coloured text for terminals

`colorize` puts a text between the escape sequences of its styles, and `stripColors` removes escape
sequences. Everything takes a flag that tells whether colours are on.
-/

namespace HtmlTemplate.Terminal

/-- The styles that messages use. -/
inductive Style
  | reset
  | bold
  | dim
  | red
  | green
  | yellow
  | cyan
  | brightRed
  | brightGreen
deriving DecidableEq, Repr

/-- The number of a style in an escape sequence. -/
def Style.number : Style → String
  | reset => "0"
  | bold => "1"
  | dim => "2"
  | red => "31"
  | green => "32"
  | yellow => "33"
  | cyan => "36"
  | brightRed => "91"
  | brightGreen => "92"

/-- The style of a name. -/
def Style.ofName? : String → Option Style
  | "reset" => some reset
  | "bold" => some bold
  | "dim" => some dim
  | "red" => some red
  | "green" => some green
  | "yellow" => some yellow
  | "cyan" => some cyan
  | "bright_red" => some brightRed
  | "bright_green" => some brightGreen
  | _ => none

/-- The character that begins an escape sequence. -/
def escapeChar : Char := '\x1b'

/-- The escape sequence of a style. -/
def Style.sequence (s : Style) : String :=
  String.ofList [escapeChar, '['] ++ s.number ++ "m"

/-- A text in the given styles; without colours or styles it is left as it is. -/
def colorize (colors : Bool) (styles : List Style) (text : String) : String :=
  if colors && !styles.isEmpty then
    String.join (styles.map Style.sequence) ++ text ++ Style.sequence .reset
  else text

/-- Whether colours are on: the environment may force or forbid them, and otherwise they are on
when the output is a terminal. -/
def shouldUseColors (force? forbid? : Option String) (isTerminal : Bool) : Bool :=
  if force?.any (!·.isEmpty) then true
  else if forbid?.any (!·.isEmpty) then false
  else isTerminal

def errorCode (colors : Bool) : String → String := colorize colors [.brightRed, .bold]

def location (colors : Bool) : String → String := colorize colors [.cyan]

def hint (colors : Bool) : String → String := colorize colors [.green]

def suggestion (colors : Bool) : String → String := colorize colors [.brightGreen, .bold]

def dimText (colors : Bool) : String → String := colorize colors [.dim]

/-- A message after its error code, if there is one. -/
def errorHeader (colors : Bool) (code? : Option String) (message : String) : String :=
  match code? with
  | some code => if code.isEmpty then message else errorCode colors code ++ ": " ++ message
  | none => message

/-- The names of components being expanded, outermost first, under a heading. -/
def componentStack (colors : Bool) (stack : List String) : String :=
  if stack.isEmpty then ""
  else String.intercalate "\n"
    (dimText colors "Component stack:" :: stack.map fun name => "  • " ++ location colors name)

/-- Whether the code point of a character lies in a range. -/
def within (lo hi : Nat) (c : Char) : Bool := lo ≤ c.toNat && c.toNat ≤ hi

/-- The text after an escape sequence of which the first character has been read. -/
def afterSequence? (cs : List Char) : Option (List Char) :=
  match cs with
  | [] => none
  | c :: rest =>
    if c == '[' then
      match (rest.dropWhile (within 0x30 0x3f)).dropWhile (within 0x20 0x2f) with
      | final :: after => if within 0x40 0x7e final then some after else none
      | [] => none
    else if within 0x40 0x5f c then some rest
    else none

/-- Removes escape sequences from a text of at most `fuel` characters. -/
def stripChars : Nat → List Char → List Char
  | 0, cs => cs
  | _, [] => []
  | fuel + 1, c :: cs =>
    if c = escapeChar then
      match afterSequence? cs with
      | some rest => stripChars fuel rest
      | none => c :: stripChars fuel cs
    else c :: stripChars fuel cs

/-- Removes escape sequences. -/
def stripColors (text : String) : String :=
  String.ofList (stripChars text.length text.toList)

end HtmlTemplate.Terminal
