/-
Formulary.Proofs.FractionalPower — negative numbers to fractional powers.

A fractional power of a negative number is no real number, and its value is undefined. The primitive
for powers gives it one nevertheless, a complex number, of which only the size is of interest here:
where no double holds the size, the primitive overflows before there is anything to call undefined,
and the overflow is taken for an infinity. So the value is undefined for sizes that some double
reaches, infinite for sizes from the next power of two on, and never anything else.

The size is a real number, while the calculator decides on logarithms in fixed point. These miss by
at most two, which the exponent multiplies by less than `2 ^ 52`. Between a size that a double
reaches and one that is too large there is much more room.
-/
import Formulary.Proofs.Escaping
import Formulary.Proofs.ExponentLimit
import Formulary.Proofs.Logarithm
import Formulary.Proofs.OperatorOverflow

namespace Formulary

open Number Rounding
open Float.Model (UnpackedFloat)
open Real (logb)

variable {x y z : Float} {b c d : Binary}

/-! ## Doubles that are no integers -/

namespace Binary

/-- What counts as whole is an integer. -/
theorem exists_int_of_isWhole (h : c.isWhole = true) : ∃ n : ℤ, c.value = n := by
  rcases le_or_gt 0 c.exponent with hwhole | hfraction
  · obtain ⟨k, hk⟩ := Int.eq_ofNat_of_zero_le hwhole
    refine ⟨c.signed * 2 ^ k, ?_⟩
    rw [value, hk, Int.cast_mul, Int.cast_pow, Int.cast_two, zpow_natCast]
  · obtain ⟨k, hk⟩ := Int.exists_eq_neg_ofNat hfraction.le
    rw [isWhole, decide_eq_false hfraction.not_ge, Bool.false_or, beq_iff_eq, hk, neg_neg,
      Int.toNat_natCast] at h
    obtain ⟨n, hn⟩ := Nat.dvd_of_mod_eq_zero h
    have habs : |c.value| = n := by
      rw [abs_value, hn, hk, zpow_neg, zpow_natCast, Nat.cast_mul, Nat.cast_pow, Nat.cast_two,
        mul_comm, inv_mul_cancel_left₀ (pow_ne_zero k two_ne_zero)]
    rcases (abs_eq n.cast_nonneg).mp habs with hpos | hneg
    · exact ⟨n, hpos⟩
    · exact ⟨-n, by rw [hneg, Int.cast_neg, Int.cast_natCast]⟩

end Binary

namespace Number

/-- A double that is no integer is small. -/
theorem abs_value_lt_of_fraction (hy : Binary.ofFloat? y = some c)
    (hfraction : ∀ n : ℤ, c.value ≠ n) : |c.value| < 2 ^ 52 := by
  have hexponent : c.exponent ≤ -1 := by
    by_contra hwhole
    obtain ⟨n, hn⟩ := Binary.exists_int_of_isWhole (c := c) <| by
      rw [Binary.isWhole, decide_eq_true (show 0 ≤ c.exponent by omega), Bool.true_or]
    exact hfraction n hn
  have hlt : (c.significand : ℚ) < 2 ^ 53 := by
    exact_mod_cast (canonical_of_ofFloat? hy).1.lt
  calc |c.value| = c.significand * 2 ^ c.exponent := abs_value c
    _ < 2 ^ 53 * 2 ^ c.exponent := mul_lt_mul_of_pos_right hlt (two_zpow_pos _)
    _ ≤ 2 ^ 53 * 2 ^ (-1 : ℤ) := by gcongr; norm_num
    _ = 2 ^ 52 := by norm_num

/-- A negative number is below zero as a double. -/
theorem lt_zero_of_value (hx : Binary.ofFloat? x = some b) (hnegative : b.value < 0) : x < 0 := by
  have hparts := holds_of_ofFloat? hx
  rw [lt_iff]
  change UnpackedFloat.lt x.toModel.unpack (.zero .positive) = true
  generalize x.toModel.unpack = parts, b.value = v at hparts hnegative
  cases hparts with
  | zero s => exact absurd hnegative (lt_irrefl 0)
  | @finite s m e hm =>
    cases s with
    | negative => rfl
    | positive => exact absurd hnegative (mul_nonneg m.cast_nonneg (two_zpow_pos e).le).not_gt

theorem isFinite_of_ofFloat? (hx : Binary.ofFloat? x = some b) : x.isFinite = true := by
  rw [← Bool.not_eq_false, ← ofFloat?_eq_none_iff, hx]
  exact Option.some_ne_none b

/-! ## Sizes -/

/-- A double reaches the size. -/
def IsReached (size : ℝ) : Prop :=
  ∃ z d, Binary.ofFloat? z = some d ∧ size ≤ d.value

/-- Numbers that are too large begin well above all doubles. -/
theorem abs_value_le (hz : Binary.ofFloat? z = some d) :
    |d.value| ≤ tooLarge * (1 - 1 / 2 ^ 54) := by
  obtain ⟨hcanonical, hmost⟩ := canonical_of_ofFloat? hz
  have hlt := hcanonical.le_greatest
  calc |d.value| = d.significand * 2 ^ d.exponent := abs_value d
    _ ≤ (2 ^ 53 - 1) * 2 ^ (971 : ℤ) := by gcongr; exact one_le_two
    _ ≤ (2 ^ 53 - 1 / 2) * 2 ^ (971 : ℤ) * (1 - 1 / 2 ^ 54) := by
      have hunit := two_zpow_pos 971
      generalize (2 : ℚ) ^ (971 : ℤ) = unit at hunit
      linarith
    _ = tooLarge * (1 - 1 / 2 ^ 54) := by rw [tooLarge_eq]

theorem value_leastOverflow : leastOverflow.value = tooLarge := by
  have hnext : (2 : ℚ) ^ (971 : ℤ) = 2 ^ (970 : ℤ) * 2 := zpow_add_one₀ two_ne_zero 970
  rw [tooLarge_eq, hnext, Binary.value, leastOverflow, Binary.signed]
  generalize (2 : ℚ) ^ (970 : ℤ) = unit
  norm_num
  ring

/-! ## Overflow -/

/-- Whether a power overflows is decided on the product of the exponent and the logarithm. -/
theorem powerOverflows_iff (hx : Binary.ofFloat? x = some b) (hy : Binary.ofFloat? y = some c) :
    powerOverflows x y = true ↔
      (binaryLogarithm leastOverflow : ℝ) ≤ binaryLogarithm b * (c.value : ℝ) := by
  rw [powerOverflows, hx, hy]
  simp only
  generalize binaryLogarithm leastOverflow = least, binaryLogarithm b = logarithm
  have hvalue : (c.value : ℝ) = c.signed * 2 ^ c.exponent := by
    rw [Binary.value]
    push_cast
    rfl
  rw [hvalue]
  split
  case isTrue hwhole =>
    obtain ⟨k, hk⟩ := Int.eq_ofNat_of_zero_le hwhole
    rw [decide_eq_true_eq, hk, Int.toNat_natCast, zpow_natCast, ← mul_assoc]
    exact_mod_cast Iff.rfl
  case isFalse hfraction =>
    obtain ⟨k, hk⟩ := Int.exists_eq_neg_ofNat (Int.le_of_not_le hfraction)
    rw [decide_eq_true_eq, hk, neg_neg, Int.toNat_natCast, zpow_neg, zpow_natCast, ← mul_assoc,
      ← div_eq_mul_inv, le_div_iff₀ (pow_pos two_pos k)]
    exact_mod_cast Iff.rfl

/-- The product misses the logarithm of the power by at most twice the exponent. -/
theorem abs_product_sub_le (hb : b.significand ≠ 0) (w : ℝ) :
    |binaryLogarithm b * w - 2 ^ 128 * logb 2 (|(b.value : ℝ)| ^ w)| ≤ 2 * |w| := by
  obtain ⟨hlow, hhigh⟩ := binaryLogarithm_bounds hb
  have hpos : 0 < |(b.value : ℝ)| := by
    rw [← Rat.cast_abs, abs_value]
    have := Nat.pos_of_ne_zero hb
    positivity
  have hmiss : |(binaryLogarithm b : ℝ) - 2 ^ 128 * logb 2 (|(b.value : ℝ)|)| ≤ 2 :=
    abs_le.mpr ⟨by linarith, by linarith⟩
  rw [Real.logb_rpow_eq_mul_logb_of_pos hpos, mul_left_comm, mul_comm _ w, ← mul_sub, abs_mul,
    mul_comm]
  exact mul_le_mul_of_nonneg_right hmiss (abs_nonneg w)

/-- The logarithm of the least number that is too large. -/
theorem binaryLogarithm_leastOverflow :
    (binaryLogarithm leastOverflow : ℝ) ≤ 2 ^ 128 * logb 2 tooLarge ∧
      2 ^ 128 * logb 2 tooLarge ≤ binaryLogarithm leastOverflow + 2 := by
  have hbounds := binaryLogarithm_bounds (b := leastOverflow) (by decide)
  rwa [value_leastOverflow, ← Rat.cast_abs, abs_of_pos tooLarge_pos] at hbounds

/-- For an exponent that is no integer, this is little. -/
theorem product_bounds (hy : Binary.ofFloat? y = some c) (hb : b.significand ≠ 0)
    (hfraction : ∀ n : ℤ, c.value ≠ n) :
    2 ^ 128 * logb 2 (|(b.value : ℝ)| ^ (c.value : ℝ)) - 2 ^ 53
        ≤ binaryLogarithm b * (c.value : ℝ) ∧
      binaryLogarithm b * (c.value : ℝ)
        ≤ 2 ^ 128 * logb 2 (|(b.value : ℝ)| ^ (c.value : ℝ)) + 2 ^ 53 := by
  have hsmall : |(c.value : ℝ)| < 2 ^ 52 := by
    exact_mod_cast abs_value_lt_of_fraction hy hfraction
  obtain ⟨hlow, hhigh⟩ := abs_le.mp (abs_product_sub_le hb c.value)
  constructor <;> linarith

section Decision

variable (hx : Binary.ofFloat? x = some b) (hy : Binary.ofFloat? y = some c)
  (hzero : b.value ≠ 0) (hfraction : ∀ n : ℤ, c.value ≠ n)

include hx hy hzero hfraction

/-- No overflow where a double reaches the size. -/
theorem powerOverflows_of_isReached (h : IsReached (|(b.value : ℝ)| ^ (c.value : ℝ))) :
    powerOverflows x y = false := by
  obtain ⟨z, d, hz, hsize⟩ := h
  have hpos : 0 < |(b.value : ℝ)| ^ (c.value : ℝ) :=
    Real.rpow_pos_of_pos (abs_pos.mpr (Rat.cast_ne_zero.mpr hzero)) _
  have hdouble := Rat.cast_le (K := ℝ) |>.mpr <| (le_abs_self d.value).trans (abs_value_le hz)
  push_cast at hdouble
  have hgap := logb_add_le hpos (Rat.cast_pos.mpr tooLarge_pos) (by norm_num)
    (hsize.trans hdouble)
  have hhigh := (product_bounds hy (significand_ne_zero hzero) hfraction).2
  rw [Bool.eq_false_iff, Ne, powerOverflows_iff hx hy, not_le]
  linarith [binaryLogarithm_leastOverflow.2]

/-- Overflow from the next power of two on. -/
theorem powerOverflows_of_le (h : 2 ^ 1024 ≤ |(b.value : ℝ)| ^ (c.value : ℝ)) :
    powerOverflows x y = true := by
  have hexact : (tooLarge : ℝ) = 2 ^ 1024 * (1 - 1 / 2 ^ 54) := by
    have hlarge : (2 : ℝ) ^ 1024 = 2 ^ 54 * 2 ^ 970 := by rw [← pow_add]
    rw [tooLarge]
    push_cast
    rw [hlarge]
    generalize (2 : ℝ) ^ 970 = unit
    ring
  have hgap := logb_add_le (Rat.cast_pos.mpr tooLarge_pos) (pow_pos two_pos 1024) (by norm_num)
    hexact.le
  have hmono := Real.logb_le_logb_of_le one_lt_two (pow_pos two_pos 1024) h
  have hlow := (product_bounds hy (significand_ne_zero hzero) hfraction).1
  rw [powerOverflows_iff hx hy]
  linarith [binaryLogarithm_leastOverflow.1]

end Decision

end Number

/-! ## The operator -/

/-- What the primitive makes of a negative number and a fractional exponent: it overflows, or the
power is not a real number. -/
theorem Primitive.power_of_fraction (hx : Binary.ofFloat? x = some b)
    (hy : Binary.ofFloat? y = some c) (hnegative : b.value < 0) (hfraction : ∀ n : ℤ, c.value ≠ n) :
    Number.power x y = (if powerOverflows x y then infinity else undefined) ∧
      Primitive.power x y = if powerOverflows x y
        then .error (.plain .overflow "(34, 'Numerical result out of range')".toList)
        else .ok undefined := by
  have hlt := lt_zero_of_value hx hnegative
  have hbase := beq_zero_of_value_ne_zero hx hnegative.ne
  have hexponent := beq_zero_of_value_ne_zero hy fun h => hfraction 0 (h.trans Int.cast_zero.symm)
  have hwhole : isWhole y = false := by
    rw [isWhole, hy, Bool.eq_false_iff]
    intro h
    obtain ⟨n, hn⟩ := Binary.exists_int_of_isWhole h
    exact hfraction n hn
  have hpower : Number.power x y = if powerOverflows x y then infinity else undefined := by
    rw [power_of_finite (isFinite_of_ofFloat? hx) (isFinite_of_ofFloat? hy) hbase hexponent,
      powerOfFinite, if_pos hlt, hwhole, if_neg Bool.false_ne_true]
  refine ⟨hpower, ?_⟩
  rw [power, hbase, Bool.false_and, if_neg Bool.false_ne_true, isFinite_of_ofFloat? hx,
    isFinite_of_ofFloat? hy, hpower]
  cases powerOverflows x y <;> rfl

namespace Expr

variable {limit : Int} {left right : Expr}

/-- **A negative number to a fractional power is undefined unless the primitive overflows.** The
primitive finds no real number, and the power is undefined, where some double reaches the size of
the power. It overflows, and the power is infinite, where the size is at least the next power of two
after the doubles. There is no other result. -/
theorem eval_fractional_power (hleft : left.eval limit = .ok x) (hright : right.eval limit = .ok y)
    (hx : Binary.ofFloat? x = some b) (hy : Binary.ofFloat? y = some c) (hnegative : b.value < 0)
    (hfraction : ∀ n : ℤ, c.value ≠ n) (hlimit : |c.value| ≤ limit) :
    let size := |(b.value : ℝ)| ^ (c.value : ℝ)
    let result := (binary .power left right).eval limit
    (IsReached size → Primitive.power x y = .ok undefined ∧ result = .ok undefined) ∧
    (2 ^ 1024 ≤ size →
      (∃ message, Primitive.power x y = .error (.plain .overflow message)) ∧
      result = .ok infinity) ∧
    (result = .ok undefined ∨ result = .ok infinity) := by
  intro size result
  obtain ⟨hpower, hprimitive⟩ := Primitive.power_of_fraction hx hy hnegative hfraction
  have hwithin : exceedsExponent limit y = false := by
    rw [Bool.eq_false_iff, Ne, exceedsExponent_iff]
    rintro ⟨d, hd, hlarge⟩
    obtain rfl := Option.some.inj (hy.symm.trans hd)
    exact hlimit.not_gt hlarge
  have hresult : result = .ok (if powerOverflows x y then infinity else undefined) := by
    change (binary .power left right).eval limit = _
    rw [eval_power, hleft, hright, ← hpower]
    change (if exceedsExponent limit y then _ else _) = _
    rw [hwithin]
    rfl
  rw [hprimitive, hresult]
  refine ⟨fun hreached => ?_, fun hlarge => ?_, ?_⟩
  · rw [powerOverflows_of_isReached hx hy hnegative.ne hfraction hreached]
    exact ⟨rfl, rfl⟩
  · rw [powerOverflows_of_le hx hy hnegative.ne hfraction hlarge]
    exact ⟨⟨_, rfl⟩, rfl⟩
  · cases powerOverflows x y with
    | true => exact .inr rfl
    | false => exact .inl rfl

/-- The size of a root is reached, and that of the other power is not: its base is above
`2 ^ 996`. -/
theorem eval_fractional_power_root :
    let root := binary .power (unary .minus (literal (.float 8.0))) (literal (.float 0.5))
    let huge := binary .power (unary .minus (literal (.float 1e300))) (literal (.float 1.5))
    root.eval 1000 = .ok undefined ∧ huge.eval 1000 = .ok infinity := by
  intro root huge
  obtain ⟨bound, hbound, hboundValue⟩ : ∃ b, Binary.ofFloat? 8.0 = some b ∧ b.value = 8 :=
    ⟨⟨false, 2 ^ 52, -49⟩, by decide +kernel, by norm_num [Binary.value, Binary.signed]⟩
  obtain ⟨eight, height, heightValue⟩ : ∃ b, Binary.ofFloat? (-8.0) = some b ∧ b.value = -8 :=
    ⟨⟨true, 2 ^ 52, -49⟩, by decide +kernel, by norm_num [Binary.value, Binary.signed]⟩
  obtain ⟨half, hhalf, hhalfValue⟩ : ∃ b, Binary.ofFloat? 0.5 = some b ∧ b.value = 1 / 2 :=
    ⟨⟨false, 2 ^ 52, -53⟩, by decide +kernel, by norm_num [Binary.value, Binary.signed]⟩
  obtain ⟨large, hlarge, hlargeValue⟩ :
      ∃ b, Binary.ofFloat? (-1e300) = some b ∧ b.value = -(6724873095247260 * 2 ^ 944) :=
    ⟨⟨true, 6724873095247260, 944⟩, by decide +kernel, by norm_num [Binary.value, Binary.signed]⟩
  obtain ⟨three, hthree, hthreeValue⟩ : ∃ b, Binary.ofFloat? 1.5 = some b ∧ b.value = 3 / 2 :=
    ⟨⟨false, 3 * 2 ^ 51, -52⟩, by decide +kernel, by norm_num [Binary.value, Binary.signed]⟩
  have hodd : ∀ k n : ℤ, ((2 * k + 1 : ℤ) : ℚ) / 2 ≠ n := by
    intro k n h
    rw [div_eq_iff two_ne_zero] at h
    have hn : 2 * k + 1 = n * 2 := by exact_mod_cast h
    omega
  constructor
  · refine ((eval_fractional_power (show (unary .minus _).eval 1000 = .ok (-8.0) from rfl)
      (show (literal _).eval 1000 = .ok 0.5 from rfl) height hhalf (by norm_num [heightValue])
      (fun n => by simpa [hhalfValue] using hodd 0 n) (by norm_num [hhalfValue])).1 ?_).2
    refine ⟨8.0, bound, hbound, ?_⟩
    have hroot := Real.rpow_le_rpow_of_exponent_le (show (1 : ℝ) ≤ 8 by norm_num)
      (show (1 / 2 : ℝ) ≤ 1 by norm_num)
    rw [Real.rpow_one] at hroot
    rw [heightValue, hhalfValue, hboundValue]
    push_cast
    rwa [abs_neg, abs_of_pos (by norm_num)]
  · refine ((eval_fractional_power (show (unary .minus _).eval 1000 = .ok (-1e300) from rfl)
      (show (literal _).eval 1000 = .ok 1.5 from rfl) hlarge hthree
      (by norm_num [hlargeValue]) (fun n => by simpa [hthreeValue] using hodd 1 n)
      (by norm_num [hthreeValue])).2.1 ?_).2
    have hsize : (2 : ℝ) ^ 996 ≤ |(large.value : ℝ)| := by
      have hsplit : (2 : ℝ) ^ 996 = 2 ^ 52 * 2 ^ 944 := by rw [← pow_add]
      rw [hlargeValue, hsplit]
      push_cast
      rw [abs_neg, abs_of_pos (by positivity)]
      gcongr
      norm_num
    rw [hthreeValue]
    push_cast
    calc (2 : ℝ) ^ 1024 ≤ (2 ^ 996) ^ (3 / 2 : ℝ) := by
          rw [← Real.rpow_natCast, ← Real.rpow_natCast 2 996, ← Real.rpow_mul two_pos.le]
          exact Real.rpow_le_rpow_of_exponent_le one_le_two (by norm_num)
      _ ≤ |(large.value : ℝ)| ^ (3 / 2 : ℝ) :=
          Real.rpow_le_rpow (pow_nonneg two_pos.le _) hsize (by norm_num)

/-- The power is infinite although base and exponent are as the rule for undefined powers has it. -/
theorem evaluate_fractional_power_infinite :
    let base : Float := -1e300
    let exponent : Float := 1.5
    base.isFinite = true ∧ base < 0 ∧ exponent.isFinite = true ∧ isWhole exponent = false ∧
    exceedsExponent 1000 exponent = false ∧ infinity.isNaN = false ∧
    let limits : Limits := { maxLength := 1000, maxExponent := 1000 }
    (evaluate limits "(-1e300) ^ 1.5".toList).mapError Rejection.name = .ok infinity := by
  decide +kernel

end Expr

end Formulary
