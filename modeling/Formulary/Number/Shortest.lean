/-
Formulary.Number.Shortest — the fewest decimal digits that read back as the same double.

The reals that round to a double form an interval around it, from halfway to the neighbour below
to halfway to the neighbour above, ends included exactly when the significand is even. Of all
decimals in that interval the selection takes one with the fewest digits, of those the one nearest
to the double, and on an exact tie the one with an even last digit. Every comparison is made by
cross-multiplying naturals, so nothing here is rounded.
-/
import Formulary.Number.Binary

namespace Formulary

-- Powers are those of the core library, also where an algebraic hierarchy offers its own.
attribute [local instance (high)] instPowNat

/-- A decimal: `digits · 10 ^ exponent`. -/
structure Decimal where
  digits : Nat
  exponent : Int
deriving DecidableEq, Repr

namespace Binary

/-- How `d` compares with `n · 2 ^ j`. -/
def compareDecimal (d : Decimal) (n : Nat) (j : Int) : Ordering :=
  compare (d.digits * 10 ^ d.exponent.toNat * 2 ^ (-j).toNat)
    (n * 2 ^ j.toNat * 10 ^ (-d.exponent).toNat)

/-- Whether the gap to the value below is half the gap to the value above, as it is at a power of
two that is not the least normal one. -/
def narrowBelow (b : Binary) : Bool :=
  b.significand == 2 ^ (52 : Nat) && -1074 < b.exponent

/-- Whether `d` lies among the reals that round to the absolute value of `b`. The ends of the
interval are given on a grid four times as fine. -/
def readsBack (b : Binary) (d : Decimal) : Bool :=
  let low := if b.narrowBelow then 4 * b.significand - 1 else 4 * b.significand - 2
  let high := 4 * b.significand + 2
  let closed := b.significand % 2 == 0
  let atLow := compareDecimal d low (b.exponent - 2)
  let atHigh := compareDecimal d high (b.exponent - 2)
  (atLow == .gt || (closed && atLow == .eq)) && (atHigh == .lt || (closed && atHigh == .eq))

/-- The least `k`, among the next few from an estimate below it, with the value under `10 ^ k`. -/
def scaleFrom (b : Binary) : Nat → Int → Int
  | 0, k => k
  | fuel + 1, k =>
    if compareDecimal ⟨1, k⟩ b.significand b.exponent == .gt then k else b.scaleFrom fuel (k + 1)

/-- The number of digits before the decimal point: the least `k` with the value under `10 ^ k`.
The estimate takes the binary logarithm times a fraction just below `log 2 / log 10`. -/
def scale (b : Binary) : Int :=
  let binary := (Nat.log2 b.significand : Int) + b.exponent
  b.scaleFrom 4 (Int.fdiv (binary * 30102) 100000 - 1)

/-- The floor of the absolute value divided by `10 ^ grid`. -/
def floorOnGrid (b : Binary) (grid : Int) : Nat :=
  b.significand * 2 ^ b.exponent.toNat * 10 ^ (-grid).toNat
    / (2 ^ (-b.exponent).toNat * 10 ^ grid.toNat)

/-- The neighbour of the value on the grid of multiples of `10 ^ grid` that reads back: the nearer
one when both do, and the even one on a tie. -/
def onGrid? (b : Binary) (grid : Int) : Option Decimal :=
  let below : Decimal := ⟨b.floorOnGrid grid, grid⟩
  let above : Decimal := ⟨below.digits + 1, grid⟩
  match b.readsBack below, b.readsBack above with
  | true, true =>
    let middle : Decimal := ⟨2 * below.digits + 1, grid⟩
    match compareDecimal middle (2 * b.significand) b.exponent with
    | .gt => some below
    | .lt => some above
    | .eq => some (if below.digits % 2 == 0 then below else above)
  | true, false => some below
  | false, true => some above
  | false, false => none

/-- The decimal with the same value. -/
def exactDecimal (b : Binary) : Decimal :=
  if 0 ≤ b.exponent then ⟨b.significand * 2 ^ b.exponent.toNat, 0⟩
  else ⟨b.significand * 5 ^ (-b.exponent).toNat, b.exponent⟩

/-- Move zeros at the end of the digits into the exponent. -/
def stripZeros : Nat → Decimal → Decimal
  | 0, d => d
  | fuel + 1, d =>
    if d.digits ≠ 0 ∧ d.digits % 10 = 0 then stripZeros fuel ⟨d.digits / 10, d.exponent + 1⟩ else d

/-- The shortest decimal that reads back as the absolute value. Seventeen digits are always enough
for a double; the exact value stands behind the search all the same. -/
def shortest (b : Binary) : Decimal :=
  if b.significand = 0 then ⟨0, 0⟩
  else
    let scale := b.scale
    let found := (List.range 17).findSome? fun (n : Nat) => b.onGrid? (scale - ((n : Int) + 1))
    let chosen := found.getD b.exactDecimal
    stripZeros 800 chosen

end Binary

end Formulary
