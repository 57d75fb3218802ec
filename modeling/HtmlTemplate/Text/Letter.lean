import HtmlTemplate.Text.WordTable
import HtmlTemplate.Text.UnprintableTable
import HtmlTemplate.Text.IdentifierTable
import HtmlTemplate.Text.LetterTable
import HtmlTemplate.Text.NumeralTable

/-!
# Letters, digits and letter case

The classes of characters that names and quoted texts are made of, and the change of a text to
small or capital letters. `lowercase` and `uppercase` work on whole texts since one character may
turn into several, and since a capital sigma has another small form at the end of a word.
-/

namespace HtmlTemplate.Text

/-- Whether one of the ranges holds the code point. -/
def inRanges (ranges : List (Nat × Nat)) (n : Nat) : Bool :=
  ranges.any fun r => r.1 ≤ n && n ≤ r.2

/-- Code points of the digit zero in the scripts that have decimal digits. -/
def decimalZeros : List Nat := [
  0x30, 0x660, 0x6f0, 0x7c0, 0x966, 0x9e6, 0xa66, 0xae6, 0xb66, 0xbe6, 0xc66, 0xce6, 0xd66,
  0xde6, 0xe50, 0xed0, 0xf20, 0x1040, 0x1090, 0x17e0, 0x1810, 0x1946, 0x19d0, 0x1a80, 0x1a90,
  0x1b50, 0x1bb0, 0x1c40, 0x1c50, 0xa620, 0xa8d0, 0xa900, 0xa9d0, 0xa9f0, 0xaa50, 0xabf0, 0xff10,
  0x104a0, 0x10d30, 0x11066, 0x110f0, 0x11136, 0x111d0, 0x112f0, 0x11450, 0x114d0, 0x11650,
  0x116c0, 0x11730, 0x118e0, 0x11950, 0x11c50, 0x11d50, 0x11da0, 0x16a60, 0x16ac0, 0x16b50,
  0x1d7ce, 0x1d7d8, 0x1d7e2, 0x1d7ec, 0x1d7f6, 0x1e140, 0x1e2f0, 0x1e950, 0x1fbf0]

/-- The value of a decimal digit of any script. -/
def decimalDigit? (c : Char) : Option Nat :=
  (decimalZeros.find? fun z => z ≤ c.toNat && c.toNat < z + 10).map (c.toNat - ·)

/-- Decimal digits of any script. -/
def isDecimal (c : Char) : Bool :=
  (decimalDigit? c).isSome

/-- Digits of any script, also those that do not form decimal numbers. -/
def isDigit (c : Char) : Bool :=
  isDecimal c || inRanges loneDigitRanges c.toNat

/-- Characters that write numbers. -/
def isNumeric (c : Char) : Bool :=
  isDigit c || inRanges numberRanges c.toNat || inRanges numberLetterRanges c.toNat

/-- Letters and numbers of any script. -/
def isAlphanumeric (c : Char) : Bool :=
  if c.toNat < 128 then c.isAlphanum else inRanges wordRanges c.toNat

/-- Letters of any script. -/
def isLetter (c : Char) : Bool :=
  isAlphanumeric c && !isDigit c && !inRanges numberRanges c.toNat

/-- Letters, numbers and the underscore. -/
def isWordChar (c : Char) : Bool :=
  c == '_' || isAlphanumeric c

/-- Characters that have a visible form, and the space. -/
def isPrintable (c : Char) : Bool :=
  if c.toNat < 128 then 32 ≤ c.toNat && c.toNat < 127 else !inRanges unprintableRanges c.toNat

/-- Characters that may begin an identifier. -/
def isIdentifierStart (c : Char) : Bool :=
  if c.toNat < 128 then c.isAlpha || c == '_' else inRanges identifierStartRanges c.toNat

/-- Characters that may follow the first one of an identifier. -/
def isIdentifierRest (c : Char) : Bool :=
  if c.toNat < 128 then c.isAlphanum || c == '_' else inRanges identifierRestRanges c.toNat

/-- Whether a text has the form of an identifier. -/
def isIdentifier (s : String) : Bool :=
  match s.toList with
  | [] => false
  | c :: cs => isIdentifierStart c && cs.all isIdentifierRest

/-! ### Letter case -/

/-- The code point that a list of runs pairs with `n`. -/
def partner? (runs : List CaseRun) (n : Nat) : Option Nat :=
  runs.findSome? (CaseRun.partner? · n)

/-- The small form of a single character, where it has one of a single character. -/
def lowerChar (c : Char) : Char :=
  if c.toNat < 128 then c.toLower
  else match partner? lowercaseRuns c.toNat with
    | some n => Char.ofNat n
    | none => c

/-- The small form of a character: the dotted capital I leaves its dot behind. -/
def lowerForm (c : Char) : List Char :=
  if c.toNat == 0x130 then ['i', Char.ofNat 0x307] else [lowerChar c]

/-- The capital form of a character. -/
def upperForm (c : Char) : List Char :=
  if c.toNat < 128 then [c.toUpper]
  else match longUppercase.lookup c.toNat with
    | some ns => ns.map Char.ofNat
    | none => match partner? uppercaseRuns c.toNat with
      | some n => [Char.ofNat n]
      | none => [c]

/-- The form of a character at the start of a title. -/
def titleForm (c : Char) : List Char :=
  match longTitles.lookup c.toNat with
  | some ns => ns.map Char.ofNat
  | none => match partner? titleRuns c.toNat with
    | some n => [Char.ofNat n]
    | none => upperForm c

/-- The form of a character in caseless comparison. -/
def foldForm (c : Char) : List Char :=
  if c.toNat < 128 then [c.toLower]
  else match longFolds.lookup c.toNat with
    | some ns => ns.map Char.ofNat
    | none => match partner? foldRuns c.toNat with
      | some n => [Char.ofNat n]
      | none => lowerForm c

/-- Letters whose first part alone is a capital. -/
def isTitleLetter (c : Char) : Bool := inRanges titleRanges c.toNat

/-- Capital letters. -/
def isCapital (c : Char) : Bool :=
  (lowerForm c != [c] && !isTitleLetter c) || inRanges capitalRanges c.toNat

/-- Small letters. -/
def isSmall (c : Char) : Bool :=
  (upperForm c != [c] && lowerForm c == [c]) || inRanges smallRanges c.toNat

/-- Characters that have a letter case. -/
def isCased (c : Char) : Bool := isCapital c || isSmall c || isTitleLetter c

/-- Characters inside a word that do not take part in letter case. -/
def isCaseIgnorable (c : Char) : Bool := inRanges caseIgnorableRanges c.toNat

/-- Whether the next character of the word, marks aside, is a cased one. -/
def meetsCased (cs : List Char) : Bool :=
  match cs.dropWhile isCaseIgnorable with
  | [] => false
  | c :: _ => isCased c

/-- The small form of a character between the characters before it, the nearest first, and those
after it. -/
def smallForm (before : List Char) (c : Char) (after : List Char) : List Char :=
  if c.toNat == 0x3a3 then
    [Char.ofNat (if meetsCased before && !meetsCased after then 0x3c2 else 0x3c3)]
  else lowerForm c

/-- Small letters of a text whose earlier characters are `before`, the nearest first. -/
def lowercaseAfter (before : List Char) : List Char → List Char
  | [] => []
  | c :: cs => smallForm before c cs ++ lowercaseAfter (c :: before) cs

/-- A text in small letters. -/
def lowercase (s : String) : String :=
  String.ofList (lowercaseAfter [] s.toList)

/-- A text in capital letters. -/
def uppercase (s : String) : String :=
  String.ofList (s.toList.flatMap upperForm)

/-- A text with the letters of each word small after a first one in the form for titles. -/
def titlecase (s : String) : String :=
  String.ofList (go [] s.toList)
where
  /-- The rest of a text whose earlier characters are `before`, the nearest first. -/
  go (before : List Char) : List Char → List Char
    | [] => []
    | c :: cs =>
      (if before.head?.any isCased then smallForm before c cs else titleForm c) ++ go (c :: before) cs

/-- A text in small letters after a first character in the form for titles. -/
def capitalized (s : String) : String :=
  match s.toList with
  | [] => ""
  | c :: cs => String.ofList (titleForm c ++ lowercaseAfter [c] cs)

/-- A text with capital letters made small and small ones made capital. -/
def swapcase (s : String) : String :=
  String.ofList (go [] s.toList)
where
  /-- The rest of a text whose earlier characters are `before`, the nearest first. -/
  go (before : List Char) : List Char → List Char
    | [] => []
    | c :: cs =>
      (if isCapital c then smallForm before c cs else if isSmall c then upperForm c else [c]) ++
        go (c :: before) cs

/-- A text in the form for caseless comparison. -/
def casefold (s : String) : String :=
  String.ofList (s.toList.flatMap foldForm)

/-- Whether a text has cased characters and all of them satisfy `p`. -/
def allCased (p : Char → Bool) (s : String) : Bool :=
  s.toList.any isCased && s.toList.all fun c => p c || !isCased c

/-- Whether each run of cased characters in a text has a capital first and small letters after it,
and there is one. -/
def isTitle (s : String) : Bool :=
  s.toList.any isCased && go false s.toList
where
  /-- Whether a text is in order when a cased character stands before it, or none. -/
  go (inWord : Bool) : List Char → Bool
    | [] => true
    | c :: cs =>
      if isCapital c || isTitleLetter c then !inWord && go true cs
      else if isSmall c then inWord && go true cs
      else go false cs

/-- Equality of characters up to letter case, where the dotted capital I and the dotless i, long s
and the Kelvin sign count as forms of i, s and k. -/
def sameLetter (c d : Char) : Bool :=
  foldChar c == foldChar d
where
  /-- One representative for the forms of a letter. -/
  foldChar (c : Char) : Char :=
    let l := lowerChar c
    if l.toNat == 0x130 || l.toNat == 0x131 then 'i' else if l.toNat == 0x17f then 's' else l

end HtmlTemplate.Text
