/-
Formulary.Number.Reading — numbers from their decimal text.

The value of a numeral is the double nearest to the exact decimal. Numerals far outside the range
of doubles are settled by the place of their leading digit, so that a long exponent costs nothing.
`readFloat?` is the lenient reading of a stand-alone number: blanks around it, a sign, single
underscores between digits, and the words for infinity and for the undefined value in any case.
-/
import Formulary.Number.Layout
import Formulary.Text.Digit
import Formulary.Text.Uppercase

namespace Formulary.Number

/-- The double nearest to `digits · 10 ^ exponent`: zero when the leading digit stands far behind
the last place of a double, infinity when it stands far before the first. -/
def ofDecimal (digits : Nat) (exponent : Int) : Float :=
  if digits = 0 then 0.0
  else
    let lead := ((natText digits).length : Int) + exponent
    if lead < -400 then 0.0
    else if 400 < lead then infinity
    else Float.ofScientific digits (exponent < 0) exponent.natAbs

/-- The value of ASCII decimal digits. -/
def digitsValue (digits : Text) : Nat :=
  digits.foldl (fun n c => 10 * n + (c.toNat - '0'.toNat)) 0

/-- The double written by digits before and behind the point and an exponent. -/
def ofParts (whole fraction : Text) (exponent : Int) : Float :=
  ofDecimal (digitsValue (whole ++ fraction)) (exponent - fraction.length)

/-! ## Stand-alone numbers -/

/-- A digit of any script as an ASCII digit; other characters stay. -/
def asciiDigit (c : Char) : Char :=
  match Text.digitValue? c with
  | some d => Char.ofNat ('0'.toNat + d)
  | none => c

/-- The text without its underscores, if each of them stands between two digits; `afterDigit` says
whether a digit stands right before. -/
def withoutUnderscores? (afterDigit : Bool) : Text → Option Text
  | [] => some []
  | c :: rest =>
    if c = '_' then
      if afterDigit && rest.head?.any Char.isDigit then withoutUnderscores? false rest else none
    else
      (withoutUnderscores? c.isDigit rest).map (c :: ·)

/-- An exponent part that reaches to the end of the text; an absent one is zero. -/
def exponentPart? : Text → Option Int
  | [] => some 0
  | mark :: rest =>
    if mark ≠ 'e' ∧ mark ≠ 'E' then none
    else
      let (negative, digits) := match rest with
        | '-' :: digits => (true, digits)
        | '+' :: digits => (false, digits)
        | digits => (false, digits)
      if digits.isEmpty || !digits.all Char.isDigit then none
      else if negative then some (-(digitsValue digits : Int)) else some (digitsValue digits)

/-- An unsigned decimal numeral, or one of the words for infinity and the undefined value. -/
def readMagnitude? (text : Text) : Option Float :=
  let word := Text.asciiLowercase text
  if word = "inf".toList ∨ word = "infinity".toList then some infinity
  else if word = "nan".toList then some undefined
  else
    let whole := text.takeWhile Char.isDigit
    let behind := text.dropWhile Char.isDigit
    let (fraction, behind) := match behind with
      | '.' :: rest => (rest.takeWhile Char.isDigit, rest.dropWhile Char.isDigit)
      | rest => ([], rest)
    if whole.isEmpty && fraction.isEmpty then none
    else (exponentPart? behind).map (ofParts whole fraction)

/-- A stand-alone number. -/
def readFloat? (text : Text) : Option Float := do
  let plain ← withoutUnderscores? false ((Text.withoutMargins text).map asciiDigit)
  match plain with
  | '-' :: rest => (readMagnitude? rest).map fun x => -x
  | '+' :: rest => readMagnitude? rest
  | rest => readMagnitude? rest

end Formulary.Number
