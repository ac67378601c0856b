/-
Formulary.Expr.Literal — literal values of formula text, and how diagnostics show them.

Only integers and doubles are numbers of the calculator. The language has more literals: they are
read, so that a formula that holds one is told apart from a malformed one, and then refused by
naming the value. The characters of a text literal are kept as code points, because an escape may
name a surrogate, which is no character.
-/
import Formulary.Number.Layout
import Formulary.Text.Quoted

namespace Formulary

/-- The value of a literal. -/
inductive Literal
  | int (n : Nat)
  | float (x : Float)
  | imaginary (x : Float)
  | truth (b : Bool)
  | nothing
  | ellipsis
  | text (codes : List Nat)
  | bytes (codes : List Nat)

namespace Literal

/-- A code point of a quoted text; a surrogate is always escaped. -/
def escapedCode (quote : Char) (n : Nat) : Text :=
  if 0xD800 ≤ n ∧ n < 0xE000 then Text.backslash :: 'u' :: Text.hexDigits 4 n
  else Text.escaped quote (Char.ofNat n)

/-- One byte of a quoted byte string: visible ASCII as it is, everything else escaped. -/
def escapedByte (quote : Char) (n : Nat) : Text :=
  let c := Char.ofNat n
  if c = quote ∨ c = Text.backslash then [Text.backslash, c]
  else if c = '\t' then [Text.backslash, 't']
  else if c = '\n' then [Text.backslash, 'n']
  else if c = '\r' then [Text.backslash, 'r']
  else if 0x20 ≤ n ∧ n < 0x7F then [c]
  else Text.backslash :: 'x' :: Text.hexDigits 2 n

/-- Code points between quotes, each escaped by `escape`. -/
def quotedCodes (escape : Char → Nat → Text) (codes : List Nat) : Text :=
  let quote := Text.quoteFor (codes.map Char.ofNat)
  quote :: codes.flatMap (escape quote) ++ [quote]

/-- The literal as diagnostics show it. -/
def shown : Literal → Text
  | .int n => Number.natText n
  | .float x => Number.floatText x
  | .imaginary x => Number.textIn .bare x ++ ['j']
  | .truth true => "True".toList
  | .truth false => "False".toList
  | .nothing => "None".toList
  | .ellipsis => "Ellipsis".toList
  | .text codes => quotedCodes escapedCode codes
  | .bytes codes => 'b' :: quotedCodes escapedByte codes

end Literal

end Formulary
