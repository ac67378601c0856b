/-
Formulary.Text.Blank — white space, and texts without it at their ends.

White space is the class of the character standard: the separators and every character whose
bidirectional class is a kind of white space, which adds the four information separators U+001C to
U+001F and the next-line control. It is wider than the ASCII blanks.
-/
import Formulary.Text.Basic

namespace Formulary.Text

/-- The code points of white space. -/
def isBlank (c : Char) : Bool :=
  let n := c.toNat
  (9 ≤ n && n ≤ 13) || (0x1C ≤ n && n ≤ 0x20) || n == 0x85 || n == 0xA0 || n == 0x1680
    || (0x2000 ≤ n && n ≤ 0x200A) || n == 0x2028 || n == 0x2029 || n == 0x202F || n == 0x205F
    || n == 0x3000

/-- The text without the white space at its end. -/
def stripEnd (text : Text) : Text :=
  (text.reverse.dropWhile isBlank).reverse

/-- The text without the white space at both ends. -/
def strip (text : Text) : Text :=
  stripEnd (text.dropWhile isBlank)

/-- The white space that may stand around a number: all of it but the information separators. -/
def isMargin (c : Char) : Bool :=
  isBlank c && !(0x1C ≤ c.toNat && c.toNat ≤ 0x1F)

/-- The text without the margins at both ends. -/
def withoutMargins (text : Text) : Text :=
  ((text.dropWhile isMargin).reverse.dropWhile isMargin).reverse

end Formulary.Text
