/-
Formulary.Number.Arithmetic — the operations of the calculator on doubles.

All operations are total. Dividing by zero gives a signed infinity or the undefined value, a
remainder by zero is the dividend, and a power that overflows is an infinity with the sign that
the exact power has. Quotient and remainder belong together: the remainder has the sign of the
divisor, and it is computed exactly. Floors are taken on the exact value.
-/
import Formulary.Number.Binary
import Formulary.Number.Growth

namespace Formulary.Number

/-! ## Division -/

/-- `a / b`, where a zero divisor gives an infinity with the sign of the quotient, or the undefined
value when the dividend is zero or undefined. -/
def divide (a b : Float) : Float :=
  if b == 0 then
    if a == 0 || a.isNaN then undefined
    else infinityLike a * withSignOf 1.0 b
  else
    a / b

/-- The remainder of the division that is cut towards zero, which has the sign of the dividend. -/
def cutRemainder (a b : Float) : Float :=
  match Binary.ofFloat? a, Binary.ofFloat? b with
  | some x, some y => if y.significand = 0 then undefined else (x.remainder y).toFloat
  | none, _ => undefined
  | some _, none => if b.isNaN then undefined else a

/-- The remainder with the sign of the divisor `b ≠ 0`: a cut remainder of the other sign is moved
up by the divisor, and a zero takes the divisor's sign. -/
def floorRemainder (a b : Float) : Float :=
  let cut := cutRemainder a b
  if cut == 0 then zeroLike b
  else if (b < 0) != (cut < 0) then cut + b
  else cut

/-- The floor of a double as a double. -/
def floorFloat (x : Float) : Float :=
  match Binary.ofFloat? x with
  | some b => if b.isWhole then x else Float.ofInt b.floor
  | none => x

/-- The quotient that goes with `floorRemainder`: the dividend less the cut remainder is a multiple
of the divisor up to rounding, so the quotient is snapped to the nearer whole number. -/
def floorQuotient (a b : Float) : Float :=
  let cut := cutRemainder a b
  let exact := (a - cut) / b
  let quotient := if !(cut == 0) && (b < 0) != (cut < 0) then exact - 1.0 else exact
  if quotient == 0 then zeroLike (a / b)
  else
    let whole := floorFloat quotient
    if quotient - whole > 0.5 then whole + 1.0 else whole

/-- `a // b`; by zero it is the plain quotient. -/
def floorDivide (a b : Float) : Float :=
  if b == 0 then divide a b else floorQuotient a b

/-- `a % b`; by zero it is the dividend. -/
def modulo (a b : Float) : Float :=
  if b == 0 then a else floorRemainder a b

/-! ## Powers -/

/-- A power with an infinite exponent is decided by how the base compares with one. -/
def powerOfInfinite (base exponent : Float) : Float :=
  let size := base.abs
  if size == 1 then 1.0
  else if (exponent > 0) == (size > 1) then infinity
  else 0.0

/-- A power of an infinite or zero base: the same kind of value or its reciprocal, negative only
for an odd exponent. -/
def powerOfExtreme (base exponent : Float) : Float :=
  let size := if (exponent > 0) == base.isInf then infinity else 0.0
  if isOdd exponent then withSignOf size base else size

/-- The power of a finite base other than zero with a finite exponent other than zero. A negative
base has a power for whole exponents only, of the sign that the exponent's parity gives. Without
one the result is undefined, but a size beyond every double is still reported as infinite. -/
def powerOfFinite (base exponent : Float) : Float :=
  if base < 0 then
    if isWhole exponent then
      let size := if base == -1 then 1.0 else Float.pow (-base) exponent
      if isOdd exponent then -size else size
    else if powerOverflows base exponent then infinity
    else undefined
  else if base == 1 then 1.0
  else Float.pow base exponent

/-- `base ^ exponent`. Everything to the power zero is one, and so is one to every power. -/
def power (base exponent : Float) : Float :=
  if exponent == 0 then 1.0
  else if base == 0 && exponent < 0 then infinity
  else if base.isNaN then base
  else if exponent.isNaN then if base == 1 then 1.0 else exponent
  else if exponent.isInf then powerOfInfinite base exponent
  else if base.isInf || base == 0 then powerOfExtreme base exponent
  else powerOfFinite base exponent

end Formulary.Number
