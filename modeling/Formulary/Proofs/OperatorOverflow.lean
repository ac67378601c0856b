/-
Formulary.Proofs.OperatorOverflow — an operator whose result is too large gives an infinity.

The exact result of an operator on finite doubles is a rational number, except for a power. Where it
is too large for a double, the operator gives the infinity with its sign. For sums, differences,
products and quotients this is how they are rounded. A remainder is never too large. A floored
quotient takes four steps that are rounded; they miss the exact quotient by less than three, and
between too large and three less there is no quotient of two doubles, so the division overflows.

How large a power is, the library decides. Where it gives up on the size of a power, the operator
gives the infinity with the sign of the power, and the function of the library fails.
-/
import Formulary.Expr.Eval
import Formulary.Proofs.Powers
import Formulary.Proofs.Remainder

namespace Formulary

open Number Rounding

/-- The exact result of an operator. Nothing is divided by zero, and a power is not rational. -/
def BinaryOp.exactResult? : BinaryOp → ℚ → ℚ → Option ℚ
  | .add, v, w => some (v + w)
  | .subtract, v, w => some (v - w)
  | .multiply, v, w => some (v * w)
  | .divide, v, w => if w = 0 then none else some (v / w)
  | .floorDivide, v, w => if w = 0 then none else some ⌊v / w⌋
  | .modulo, v, w => if w = 0 then none else some (v - w * ⌊v / w⌋)
  | .power, _, _ => none

variable {x y : Float} {b c : Binary} {q v w r d : ℚ}

namespace Number

/-! ## Quotients of doubles -/

theorem beq_zero_of_value_ne_zero (hy : Binary.ofFloat? y = some c) (hzero : c.value ≠ 0) :
    (y == 0) = false := by
  rw [Bool.eq_false_iff]
  intro h
  have hparts : Holds y.toModel.unpack 0 := by
    rcases eq_zero_or_of_beq h with rfl | rfl
    · exact .zero .positive
    · exact .zero .negative
  obtain ⟨z, hz, hvalue⟩ := hparts.ofFloat?
  rw [hy] at hz
  exact hzero (Option.some.inj hz ▸ hvalue)

/-- No quotient of mantissas lies just below the numbers that are too large: they are multiples of
a unit that is much greater than three. -/
theorem tooLarge_le_ratio {m n : ℕ} {k : ℤ} (hm : m < 2 ^ 53) (hn : n < 2 ^ 53) (hpos : 0 < n)
    (h : tooLarge - 3 < m * 2 ^ k / n) : tooLarge ≤ m * 2 ^ k / n := by
  by_contra hlt
  have hone : (1 : ℚ) ≤ n := by exact_mod_cast hpos
  have hnQ : (0 : ℚ) < n := zero_lt_one.trans_le hone
  have hmQ : (m : ℚ) ≤ 2 ^ 53 := by exact_mod_cast hm.le
  have hnQ' : (n : ℚ) ≤ 2 ^ 53 := by exact_mod_cast hn.le
  have hunit : (2 : ℚ) ^ 55 ≤ 2 ^ (970 : ℤ) := by
    rw [← zpow_natCast]
    exact zpow_le_zpow_right₀ one_le_two (by norm_num)
  have hlarge : tooLarge = (2 ^ 54 - 1) * 2 ^ (970 : ℤ) := by
    have hnext : (2 : ℚ) ^ (971 : ℤ) = 2 ^ (970 : ℤ) * 2 := zpow_add_one₀ two_ne_zero 970
    rw [tooLarge_eq, hnext]
    ring
  rw [not_le, div_lt_iff₀ hnQ, hlarge] at hlt
  rw [lt_div_iff₀ hnQ, hlarge] at h
  have hk : 970 ≤ k := by
    by_contra hk
    have hsmall : (m : ℚ) * 2 ^ k ≤ 2 ^ 53 * 2 ^ (970 : ℤ) :=
      mul_le_mul hmQ (zpow_le_zpow_right₀ one_le_two (by omega)) (two_zpow_pos k).le (by positivity)
    generalize (2 : ℚ) ^ (970 : ℤ) = unit at hunit hsmall h
    have hleast : (2 ^ 54 - 1) * unit - 3 ≤ ((2 ^ 54 - 1) * unit - 3) * n :=
      le_mul_of_one_le_right (by linarith) hone
    linarith
  have hunits : (m : ℚ) * 2 ^ k = (m * 2 ^ (k - 970).toNat : ℕ) * 2 ^ (970 : ℤ) := by
    have hsplit : k = ((k - 970).toNat : ℤ) + 970 := by omega
    conv_lhs => rw [hsplit, zpow_add₀ two_ne_zero, zpow_natCast, ← mul_assoc]
    rw [Nat.cast_mul, Nat.cast_pow, Nat.cast_two]
  rw [hunits] at h hlt
  generalize (2 : ℚ) ^ (970 : ℤ) = unit at hunit h hlt
  generalize m * 2 ^ (k - 970).toNat = multiple at h hlt
  have hcount : (2 ^ 54 - 1 : ℚ) * n = ((2 ^ 54 - 1) * n : ℕ) := by norm_num
  rw [mul_right_comm, hcount] at hlt
  have hgap : multiple + 1 ≤ (2 ^ 54 - 1) * n := by
    exact_mod_cast lt_of_mul_lt_mul_right hlt (by linarith)
  have hgapQ : (multiple : ℚ) + 1 ≤ ((2 ^ 54 - 1) * n : ℕ) := by exact_mod_cast hgap
  have hfar := mul_le_mul_of_nonneg_right hgapQ (show 0 ≤ unit by linarith)
  rw [← hcount] at hfar
  linarith

theorem tooLarge_le_abs_div (hx : Binary.ofFloat? x = some b) (hy : Binary.ofFloat? y = some c)
    (hzero : c.value ≠ 0) (h : tooLarge - 3 < |b.value / c.value|) :
    tooLarge ≤ |b.value / c.value| := by
  have hratio : |b.value / c.value|
      = b.significand * 2 ^ (b.exponent - c.exponent) / c.significand := by
    rw [abs_div, abs_value, abs_value, zpow_sub₀ two_ne_zero]
    field_simp
  rw [hratio] at h ⊢
  exact tooLarge_le_ratio (canonical_of_ofFloat? hx).1.lt (canonical_of_ofFloat? hy).1.lt
    (Nat.pos_of_ne_zero (significand_ne_zero hzero)) h

/-! ## Floored quotients -/

/-- The dividend without the remainder, rounded, gives a quotient less than three from the floored
one, on the same side of zero. -/
theorem near_floor (hw : w ≠ 0) (hcut : IsCutRemainder v w r) (hd : |v - r - d| ≤ |r|)
    (hlarge : tooLarge ≤ |(⌊v / w⌋ : ℚ)|) :
    tooLarge - 3 < |d / w| ∧ (d / w < 0 ↔ (⌊v / w⌋ : ℚ) < 0) := by
  have hthree : (3 : ℚ) ≤ tooLarge := by
    have hone : (1 : ℚ) ≤ 2 ^ (971 : ℤ) := one_le_zpow₀ one_le_two (by norm_num)
    rw [tooLarge_eq]
    generalize (2 : ℚ) ^ (971 : ℤ) = unit at hone ⊢
    linarith
  have hnear : |d / w - v / w| < 2 := by
    obtain ⟨hmiss1, hmiss2⟩ := abs_le.mp hd
    rw [← sub_div, abs_div, div_lt_iff₀ (abs_pos.mpr hw), abs_lt]
    constructor <;> linarith [hcut.abs_lt, le_abs_self r, neg_abs_le r]
  obtain ⟨hnear1, hnear2⟩ := abs_lt.mp hnear
  have hfloor1 := Int.floor_le (v / w)
  have hfloor2 := Int.lt_floor_add_one (v / w)
  rcases lt_or_ge (⌊v / w⌋ : ℚ) 0 with hneg | hpos
  · rw [abs_of_neg hneg] at hlarge
    have hnegQ : d / w < 0 := by linarith
    rw [abs_of_neg hnegQ]
    exact ⟨by linarith, iff_of_true hnegQ hneg⟩
  · rw [abs_of_nonneg hpos] at hlarge
    have hposQ : 0 ≤ d / w := by linarith
    rw [abs_of_nonneg hposQ]
    exact ⟨by linarith, iff_of_false hposQ.not_gt hpos.not_gt⟩

/-- Snapping an infinite quotient to a whole number keeps it. -/
theorem floorQuotient_of_infinite (h : (x - cutRemainder x y) / y = infinity ∨
      (x - cutRemainder x y) / y = -infinity) :
    floorQuotient x y = (x - cutRemainder x y) / y := by
  rw [floorQuotient]
  simp only
  generalize (!(cutRemainder x y == 0) && (decide (y < 0) != decide (cutRemainder x y < 0))) = moved
  generalize cutRemainder x y = cut at h ⊢
  rcases h with h | h <;> rw [h] <;> cases moved <;> rfl

/-- A floored quotient that is too large is an infinity. -/
theorem floorDivide_of_tooLarge (hx : Binary.ofFloat? x = some b) (hy : Binary.ofFloat? y = some c)
    (hzero : c.value ≠ 0) (hlarge : tooLarge ≤ |(⌊b.value / c.value⌋ : ℚ)|) :
    floorDivide x y = if (⌊b.value / c.value⌋ : ℚ) < 0 then -infinity else infinity := by
  obtain ⟨r, hr, hcut⟩ := cutRemainder_exact hx hy hzero
  have hdifference := isRounded_sub hx hr
  have hsmall : |b.value - r.value| < tooLarge := by
    rw [hcut.abs_sub]
    exact (sub_le_self _ (abs_nonneg _)).trans_lt (holds_of_ofFloat? hx).abs_lt
  obtain ⟨z, hz, hnearest⟩ := hdifference.nearest hsmall
  have hmiss := hnearest x b hx
  rw [sub_sub_cancel_left, abs_neg] at hmiss
  obtain ⟨hfar, hside⟩ := near_floor hzero hcut hmiss hlarge
  have hquotient := (isRounded_div hz hy hzero).overflow (tooLarge_le_abs_div hz hy hzero hfar)
  simp only [hside] at hquotient
  rw [floorDivide, beq_zero_of_value_ne_zero hy hzero, ← hquotient]
  refine floorQuotient_of_infinite ?_
  rw [hquotient]
  split
  · exact .inr rfl
  · exact .inl rfl

/-! ## Powers -/

/-- The base and the exponent are finite, the power is a real number but not plainly zero or one,
and its size is infinite. The size is the library's power of two sizes, whose rounding is trusted
here: from which power on it is infinite is not said. -/
structure IsPowerTooLarge (base exponent : Float) : Prop where
  base_finite : base.isFinite = true
  exponent_finite : exponent.isFinite = true
  base_ne_zero : (base == 0) = false
  exponent_ne_zero : (exponent == 0) = false
  base_ne_one : (base == 1) = false
  base_ne_neg_one : (base == -1) = false
  real : base < 0 → isWhole exponent = true
  size : Float.pow (if base < 0 then -base else base) exponent = infinity

variable {base exponent : Float}

/-- A power that is too large is the infinity with the sign of the power. -/
theorem power_of_tooLarge (h : IsPowerTooLarge base exponent) :
    power base exponent = if base < 0 ∧ isOdd exponent = true then -infinity else infinity := by
  have hsize := h.size
  rw [power_of_finite h.base_finite h.exponent_finite h.base_ne_zero h.exponent_ne_zero,
    powerOfFinite]
  by_cases hneg : base < 0
  · rw [if_pos hneg] at hsize
    rw [if_pos hneg, if_pos (h.real hneg), h.base_ne_neg_one]
    simp only [Bool.false_eq_true, if_false, hsize, hneg, true_and]
  · rw [if_neg hneg] at hsize
    rw [if_neg hneg, h.base_ne_one, if_neg Bool.false_ne_true, hsize,
      if_neg (fun hboth => hneg hboth.1)]

/-- The function refuses such a power as out of range. -/
theorem powRefusal?_of_tooLarge (h : IsPowerTooLarge base exponent) :
    Function.powRefusal? base exponent = some .range := by
  have hinfinite : (power base exponent).isInf = true := by
    rw [power_of_tooLarge h]
    split <;> rfl
  have hreal : (decide (base < 0) && !isWhole exponent) = false := by
    by_cases hneg : base < 0
    · rw [h.real hneg, Bool.not_true, Bool.and_false]
    · rw [decide_eq_false hneg, Bool.false_and]
  rw [Function.powRefusal?, h.base_finite, h.exponent_finite, h.base_ne_zero, hreal, hinfinite]
  rfl

end Number

/-! ## All operators -/

/-- **An operator whose exact result is too large gives the infinity with its sign.** -/
theorem BinaryOp.apply_of_tooLarge {op : BinaryOp} (hx : Binary.ofFloat? x = some b)
    (hy : Binary.ofFloat? y = some c) (hq : op.exactResult? b.value c.value = some q)
    (hlarge : tooLarge ≤ |q|) (limit : Int) :
    op.apply limit x y = .ok (if q < 0 then -infinity else infinity) := by
  cases op with
  | add =>
    cases hq
    exact congrArg Except.ok ((isRounded_add hx hy).overflow hlarge)
  | subtract =>
    cases hq
    exact congrArg Except.ok ((isRounded_sub hx hy).overflow hlarge)
  | multiply =>
    cases hq
    exact congrArg Except.ok ((isRounded_mul hx hy).overflow hlarge)
  | divide =>
    rw [exactResult?] at hq
    split at hq
    case isTrue => cases hq
    case isFalse hzero =>
      cases hq
      have hquotient : Number.divide x y = x / y := by
        rw [Number.divide, beq_zero_of_value_ne_zero hy hzero]
        rfl
      exact congrArg Except.ok (hquotient.trans ((isRounded_div hx hy hzero).overflow hlarge))
  | floorDivide =>
    rw [exactResult?] at hq
    split at hq
    case isTrue => cases hq
    case isFalse hzero =>
      cases hq
      exact congrArg Except.ok (floorDivide_of_tooLarge hx hy hzero hlarge)
  | modulo =>
    rw [exactResult?] at hq
    split at hq
    case isTrue => cases hq
    case isFalse hzero =>
      cases hq
      -- A remainder is less than the divisor, which is a double.
      have hrest : b.value - c.value * ⌊b.value / c.value⌋
          = c.value * Int.fract (b.value / c.value) := by
        rw [Int.fract, mul_sub, mul_div_cancel₀ _ hzero]
      rw [hrest, abs_mul, Int.abs_fract] at hlarge
      have hless := mul_lt_mul_of_pos_left (Int.fract_lt_one (b.value / c.value))
        (abs_pos.mpr hzero)
      rw [mul_one] at hless
      exact absurd (hlarge.trans hless.le) (holds_of_ofFloat? hy).abs_lt.not_ge
  | power => cases hq

end Formulary
