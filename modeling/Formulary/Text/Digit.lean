/-
Formulary.Text.Digit — decimal digits of every script, and integers written with them.

Each script's ten digits stand one behind another in the code space, so the table holds only the
zeros. `readInteger?` is the lenient reading of a whole number from a setting or an option: margins
around it, one sign, and single underscores between digits are allowed.
-/
import Formulary.Text.CodePoint
import Formulary.Text.Blank

namespace Formulary.Text

/-- The digit zero of every script. -/
def zeroDigitRows : List String :=
  [ "30 660 6F0 7C0 966 9E6 A66 AE6 B66 BE6 C66 CE6 D66 DE6 E50 ED0 F20 1040 1090 17E0 1810 1946",
    "19D0 1A80 1A90 1B50 1BB0 1C40 1C50 A620 A8D0 A900 A9D0 A9F0 AA50 ABF0 FF10 104A0 10D30 11066",
    "110F0 11136 111D0 112F0 11450 114D0 11650 116C0 11730 118E0 11950 11C50 11D50 11DA0 16A60",
    "16AC0 16B50 1D7CE 1D7D8 1D7E2 1D7EC 1D7F6 1E140 1E2F0 1E950 1FBF0" ]

/-- The zeros as code points. -/
def zeroDigits : List Nat :=
  zeroDigitRows.flatMap fun row => (fields ' ' row.toList).map CodePoint.hexNumber

/-- The value of a decimal digit of any script. -/
def digitValue? (c : Char) : Option Nat :=
  if c.toNat < 0x80 then
    if c.isDigit then some (c.toNat - '0'.toNat) else none
  else
    (zeroDigits.find? fun start => start ≤ c.toNat && c.toNat < start + 10).map (c.toNat - ·)

/-- The value of a row of digits with single underscores between digits, going on from `value`;
`afterDigit` says whether a digit stands right before. -/
def digitsValue? (afterDigit : Bool) (value : Nat) : Text → Option Nat
  | [] => if afterDigit then some value else none
  | c :: rest =>
    if c = '_' then
      if afterDigit then digitsValue? false value rest else none
    else
      match digitValue? c with
      | some d => digitsValue? true (10 * value + d) rest
      | none => none

/-- A natural number written in decimal digits. -/
def readNatural? (text : Text) : Option Nat :=
  digitsValue? false 0 text

/-- A whole number with an optional sign, between margins. -/
def readInteger? (text : Text) : Option Int :=
  match withoutMargins text with
  | '-' :: digits => (readNatural? digits).map fun n => -(n : Int)
  | '+' :: digits => (readNatural? digits).map fun n => (n : Int)
  | digits => (readNatural? digits).map fun n => (n : Int)

end Formulary.Text
