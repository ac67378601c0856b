/-
Formulary.Number.Layout — how a double is written.

The digits are the shortest that read back; this module lays them out. Values whose leading digit
stands from four places behind the point to sixteen places before it are written positionally, all
others with an exponent of a sign and at least two digits. Whether a whole value ends in `.0` is
the one choice left to the caller.
-/
import Formulary.Number.Shortest
import Formulary.Text.Basic

namespace Formulary

/-- The layout of a number: which exponents of the leading digit are written positionally, how many
digits the exponent has at least, and whether a whole value ends in `.0`. -/
structure Layout where
  plainFrom : Int
  plainBelow : Int
  exponentWidth : Nat
  pointZero : Bool

/-- Results and values: a double always shows that it is one. -/
def Layout.standard : Layout where
  plainFrom := -4
  plainBelow := 16
  exponentWidth := 2
  pointZero := true

/-- The same layout without the `.0` of whole values. -/
def Layout.bare : Layout :=
  { Layout.standard with pointZero := false }

namespace Number

/-- The decimal digits of a natural number. -/
def natText (n : Nat) : Text :=
  Nat.toDigits 10 n

/-- An integer: its digits, behind a minus if it is negative. -/
def intText (n : Int) : Text :=
  if n < 0 then '-' :: natText n.natAbs else natText n.natAbs

/-- The greatest number of digits with which integers are read and written. A larger integer is a
number like any other, but has no decimal text. -/
def maxDigits : Nat := 4300

/-- Digits with zeros in front, up to a width. -/
def padded (width n : Nat) : Text :=
  let digits := natText n
  List.replicate (width - digits.length) '0' ++ digits

/-- A decimal laid out. `digits` are its digits and `lead` is the exponent of the leading one; the
point falls behind them, before them, or among them. -/
def layOut (style : Layout) (d : Decimal) : Text :=
  let digits := natText d.digits
  let lead := (digits.length : Int) - 1 + d.exponent
  if style.plainFrom ≤ lead ∧ lead < style.plainBelow then
    if lead < 0 then
      '0' :: '.' :: List.replicate (-lead - 1).toNat '0' ++ digits
    else
      let whole := (lead + 1).toNat
      if digits.length ≤ whole then
        digits ++ List.replicate (whole - digits.length) '0'
          ++ if style.pointZero then ['.', '0'] else []
      else
        digits.take whole ++ '.' :: digits.drop whole
  else
    let mantissa := match digits with
      | [] => []
      | [d] => [d]
      | d :: rest => d :: '.' :: rest
    mantissa ++ ['e', if lead < 0 then '-' else '+'] ++ padded style.exponentWidth lead.natAbs

/-- A double in the given layout. -/
def textIn (style : Layout) (x : Float) : Text :=
  match Binary.ofFloat? x with
  | none =>
    if x.isNaN then "nan".toList else if isNegative x then "-inf".toList else "inf".toList
  | some b =>
    let magnitude := layOut style b.shortest
    if b.negative then '-' :: magnitude else magnitude

/-- A double in the standard layout. -/
def floatText (x : Float) : Text :=
  textIn .standard x

/-- A result for people: a whole value is written as an integer, all others as usual. -/
def plainText (x : Float) : Text :=
  match Binary.ofFloat? x with
  | some b => if b.isWhole then intText b.floor else floatText x
  | none => floatText x

end Number

end Formulary
