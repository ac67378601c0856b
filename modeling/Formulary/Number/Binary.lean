/-
Formulary.Number.Binary — doubles taken apart into exact integers, and put together again.

A finite double is `± significand · 2 ^ exponent` with naturals and integers, so what has to be
exact (floor and ceiling, remainder, comparison with an integer, whether a value is whole) is
decided here over `Nat` and `Int` and never by rounded arithmetic. NaN and the infinities have no
such form; `Binary.ofFloat?` is `none` on them.
-/
namespace Formulary

-- Powers are those of the core library, also where an algebraic hierarchy offers its own.
attribute [local instance (high)] instPowNat

/-- The exact value of a finite double: `± significand · 2 ^ exponent`. The sign is kept apart, so
that the two zeros differ. -/
structure Binary where
  negative : Bool
  significand : Nat
  exponent : Int
deriving DecidableEq, Repr

namespace Binary

/-! ## From and to doubles -/

/-- The sign bit. -/
def signBit (x : Float) : Bool :=
  x.toBits >>> 63 == 1

/-- The exact value of a finite double. The least exponent belongs to the subnormal values; all
others have a leading one that is not stored. -/
def ofFloat? (x : Float) : Option Binary :=
  let stored := ((x.toBits >>> 52) &&& 0x7FF).toNat
  let fraction := (x.toBits &&& 0xFFFFFFFFFFFFF).toNat
  if stored = 0x7FF then none
  else if stored = 0 then some ⟨signBit x, fraction, -1074⟩
  else some ⟨signBit x, 2 ^ (52 : Nat) + fraction, (stored : Int) - 1075⟩

/-- The bit pattern of the absolute value, for a value that a double can hold exactly: the
significand is moved up to 53 bits, or as far as the least exponent allows. -/
def magnitudeBits (b : Binary) : Nat :=
  if b.significand = 0 then 0
  else
    let up := min (52 - (Nat.log2 b.significand : Int)) (b.exponent + 1074)
    let significand :=
      if up < 0 then b.significand >>> (-up).toNat else b.significand <<< up.toNat
    let stored := (b.exponent - up + 1074).toNat
    stored * 2 ^ (52 : Nat) + significand

/-- The double with this value; exact for values that a double can hold. -/
def toFloat (b : Binary) : Float :=
  let bits := b.magnitudeBits + if b.negative then 2 ^ (63 : Nat) else 0
  Float.ofBits bits.toUInt64

/-! ## Exact integers -/

/-- The signed significand. -/
def signed (b : Binary) : Int :=
  if b.negative then -(b.significand : Int) else b.significand

/-- The greatest integer that is not above the value. -/
def floor (b : Binary) : Int :=
  if 0 ≤ b.exponent then b.signed * 2 ^ b.exponent.toNat
  else Int.fdiv b.signed (2 ^ (-b.exponent).toNat)

/-- The least integer that is not below the value. -/
def ceil (b : Binary) : Int :=
  if 0 ≤ b.exponent then b.signed * 2 ^ b.exponent.toNat
  else -Int.fdiv (-b.signed) (2 ^ (-b.exponent).toNat)

/-- Whether the value is an integer. -/
def isWhole (b : Binary) : Bool :=
  0 ≤ b.exponent || b.significand % 2 ^ (-b.exponent).toNat == 0

/-- Whether the value is an odd integer. -/
def isOdd (b : Binary) : Bool :=
  b.isWhole && b.floor % 2 == 1

/-- How the absolute value compares with an integer. -/
def compareMagnitude (b : Binary) (n : Int) : Ordering :=
  if 0 ≤ b.exponent then compare ((b.significand : Int) * 2 ^ b.exponent.toNat) n
  else compare (b.significand : Int) (n * 2 ^ (-b.exponent).toNat)

/-- The remainder of the division that is cut towards zero. It has the sign of the dividend and is
computed on the finer of the two grids, hence without rounding. -/
def remainder (a b : Binary) : Binary :=
  let grid := min a.exponent b.exponent
  let dividend := a.significand * 2 ^ (a.exponent - grid).toNat
  let divisor := b.significand * 2 ^ (b.exponent - grid).toNat
  ⟨a.negative, dividend % divisor, grid⟩

end Binary

/-! ## Predicates on doubles -/

namespace Number

/-- Whether a double is a whole number; NaN and the infinities are not. -/
def isWhole (x : Float) : Bool :=
  ((Binary.ofFloat? x).map Binary.isWhole).getD false

/-- Whether a double is an odd whole number. -/
def isOdd (x : Float) : Bool :=
  ((Binary.ofFloat? x).map Binary.isOdd).getD false

/-- Whether the sign bit of a double is set, which tells the two zeros apart. -/
def isNegative (x : Float) : Bool :=
  Binary.signBit x

/-- The magnitude of `x` with the sign of `sign`. -/
def withSignOf (x sign : Float) : Float :=
  if isNegative sign then -x.abs else x.abs

/-- Positive infinity. -/
def infinity : Float := 1.0 / 0.0

/-- The undefined result. -/
def undefined : Float := 0.0 / 0.0

/-- Infinity with the sign of `sign`. -/
def infinityLike (sign : Float) : Float :=
  withSignOf infinity sign

/-- Zero with the sign of `sign`. -/
def zeroLike (sign : Float) : Float :=
  withSignOf 0.0 sign

/-- The double nearest to an integer, ties to even, unless the integer is too large for every
finite double: those begin halfway between the largest double and the next power of two. -/
def ofInt? (n : Int) : Option Float :=
  if n.natAbs < 2 ^ (1024 : Nat) - 2 ^ (970 : Nat) then some (Float.ofInt n) else none

end Number

end Formulary
