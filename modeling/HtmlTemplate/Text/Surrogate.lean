/-!
# Halves of surrogate pairs

The texts of programs are rows of code points, and some code points, those of the surrogates, are no
characters. Such a half of a pair is held as a character of the last private plane: `codePoint`
tells what a held character stands for, and `ofCodePoint?` holds a code point.
-/

namespace HtmlTemplate.Text

/-- The character that holds the first surrogate. -/
def heldSurrogates : Nat := 0x10f000

/-- Whether a character holds a surrogate. -/
def isSurrogate (c : Char) : Bool :=
  heldSurrogates ≤ c.toNat && c.toNat < heldSurrogates + 0x800

/-- The code point that a character stands for. -/
def codePoint (c : Char) : Nat :=
  if isSurrogate c then c.toNat - heldSurrogates + 0xd800 else c.toNat

/-- The character that stands for a code point. -/
def ofCodePoint? (n : Nat) : Option Char :=
  if 0xd800 ≤ n ∧ n < 0xe000 then some (Char.ofNat (n - 0xd800 + heldSurrogates))
  else if n < 0x110000 then some (Char.ofNat n)
  else none

/-- The order of texts by their code points. -/
def precedes : List Char → List Char → Bool
  | _, [] => false
  | [], _ :: _ => true
  | a :: as, b :: bs =>
    codePoint a < codePoint b || (codePoint a == codePoint b && precedes as bs)

end HtmlTemplate.Text
