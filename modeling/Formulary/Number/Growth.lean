/-
Formulary.Number.Growth — whether a power is too large for a double.

A number is too large from halfway between the greatest double and the next power of two on, where
numbers are rounded up. Whether `|base| ^ exponent` is at least that number is a question about
`exponent · log₂ |base|`, and it is decided on the binary logarithms of both in fixed point. The
logarithm is read off bit by bit by squaring a mantissa between one and two: whenever the square
reaches two the next bit is one. The mantissa is kept to 256 binary places; what is cut off is far
below the place that decides.
-/
import Formulary.Number.Binary

namespace Formulary.Number

-- Powers are those of the core library, also where an algebraic hierarchy offers its own.
attribute [local instance (high)] instPowNat

/-- The number of binary places of the mantissa. -/
def logarithmPlaces : Nat := 256

/-- The next `count` bits of the binary logarithm of `mantissa / 2 ^ logarithmPlaces`, a number
between one and two, appended to `bits`. -/
def logarithmBits : Nat → Nat → Nat → Nat
  | 0, _, bits => bits
  | count + 1, mantissa, bits =>
    let square := mantissa * mantissa / 2 ^ logarithmPlaces
    if 2 ^ (logarithmPlaces + 1) ≤ square then logarithmBits count (square / 2) (2 * bits + 1)
    else logarithmBits count square (2 * bits)

/-- `2 ^ 128` times the binary logarithm of a positive value, cut to an integer. -/
def binaryLogarithm (b : Binary) : Int :=
  let lead := Nat.log2 b.significand
  let mantissa := b.significand * 2 ^ logarithmPlaces / 2 ^ lead
  ((lead : Int) + b.exponent) * 2 ^ (128 : Nat) + logarithmBits 128 mantissa 0

/-- The least number that is rounded to an infinity: halfway from the greatest double to the next
power of two. -/
def leastOverflow : Binary :=
  ⟨false, 2 ^ (54 : Nat) - 1, 970⟩

/-- Whether the absolute value of a finite non-zero base, raised to a finite exponent, is too large
for a double. -/
def powerOverflows (base exponent : Float) : Bool :=
  match Binary.ofFloat? base, Binary.ofFloat? exponent with
  | some b, some e =>
    let product := binaryLogarithm b * e.signed
    if 0 ≤ e.exponent then binaryLogarithm leastOverflow ≤ product * 2 ^ e.exponent.toNat
    else binaryLogarithm leastOverflow * 2 ^ (-e.exponent).toNat ≤ product
  | _, _ => false

end Formulary.Number
