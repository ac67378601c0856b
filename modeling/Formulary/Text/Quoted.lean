/-
Formulary.Text.Quoted — a text between quotes, with everything unprintable escaped.

Diagnostics show texts in this form. The quote is the single one, unless the text holds single
quotes and no double ones. The quote in use, the backslash, and characters without a visible form
are escaped; a character is written by the shortest of the three numeric escapes that holds it.
-/
import Formulary.Text.Printable

namespace Formulary.Text

/-- The single quote. -/
def singleQuote : Char := '\x27'

/-- The double quote. -/
def doubleQuote : Char := '\x22'

/-- The backslash. -/
def backslash : Char := '\x5c'

/-- The quote to put around a text. -/
def quoteFor (text : Text) : Char :=
  if singleQuote ∈ text ∧ doubleQuote ∉ text then doubleQuote else singleQuote

/-- A hexadecimal digit, in small letters. -/
def hexDigit (n : Nat) : Char :=
  if n < 10 then Char.ofNat ('0'.toNat + n) else Char.ofNat ('a'.toNat + (n - 10))

/-- The lowest `width` hexadecimal digits of a number. -/
def hexDigits : Nat → Nat → Text
  | 0, _ => []
  | width + 1, n => hexDigits width (n / 16) ++ [hexDigit (n % 16)]

/-- One character of a text quoted by `quote`. -/
def escaped (quote c : Char) : Text :=
  if c = quote ∨ c = backslash then [backslash, c]
  else if c = '\n' then [backslash, 'n']
  else if c = '\r' then [backslash, 'r']
  else if c = '\t' then [backslash, 't']
  else if isPrintable c then [c]
  else if c.toNat < 0x100 then backslash :: 'x' :: hexDigits 2 c.toNat
  else if c.toNat < 0x10000 then backslash :: 'u' :: hexDigits 4 c.toNat
  else backslash :: 'U' :: hexDigits 8 c.toNat

/-- The text between quotes. -/
def quoted (text : Text) : Text :=
  let quote := quoteFor text
  quote :: text.flatMap (escaped quote) ++ [quote]

end Formulary.Text
