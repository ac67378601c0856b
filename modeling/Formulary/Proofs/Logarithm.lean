/-
Formulary.Proofs.Logarithm — the binary logarithm in fixed point misses by at most two units.

The logarithm is read off a mantissa between one and two: squaring the mantissa doubles its
logarithm, and where the square reaches two, the next bit is one and the square is halved. Each
square is cut to the places that the mantissa has. A cut takes less than one unit off a number that
is at least one, so it takes at most two units off the logarithm, and the squarings that follow
double this as they double everything. What is cut off in all of the bits together, with what is
left of the logarithm behind the last bit, stays below two.
-/
import Mathlib
import Formulary.Number.Growth
import Formulary.Proofs.Nearest

namespace Formulary.Number

open Real (logb)

-- Powers are those of the core library, as in the definitions that these laws are about.
attribute [local instance (high)] instPowNat

/-! ## Logarithms of near numbers -/

variable {u v t : ℝ}

/-- Above one, the logarithm grows at most twice as much as the number. -/
theorem logb_le_add (hu : 1 ≤ u) (ht : 0 ≤ t) (h : v ≤ u + t) (hv : 0 < v) :
    logb 2 v ≤ logb 2 u + 2 * t := by
  have hupos : 0 < u := zero_lt_one.trans_le hu
  have hratio : v / u ≤ 1 + t := by
    rw [div_le_iff₀ hupos]
    linarith [le_mul_of_one_le_right ht hu]
  have hlog : Real.log (v / u) ≤ t := by
    linarith [Real.log_le_sub_one_of_pos (div_pos hv hupos)]
  have htwo : (1 / 2 : ℝ) ≤ Real.log 2 := by linarith [Real.log_two_gt_d9]
  have hdouble : logb 2 (v / u) ≤ 2 * t := by
    rw [logb, div_le_iff₀ (by linarith)]
    linarith [mul_le_mul_of_nonneg_left htwo (show 0 ≤ 2 * t by linarith)]
  rw [Real.logb_div hv.ne' hupos.ne'] at hdouble
  linarith

/-- A number that is less by a part of the other has a logarithm that is less by this part. -/
theorem logb_add_le (hu : 0 < u) (hv : 0 < v) (ht : 0 ≤ t) (h : u ≤ v * (1 - t)) :
    logb 2 u + t ≤ logb 2 v := by
  have hpart : u / v ≤ 1 - t := by
    rw [div_le_iff₀ hv]
    linarith
  have hlog : t ≤ Real.log (v / u) := by
    have hinverse := Real.one_sub_inv_le_log_of_pos (div_pos hv hu)
    rw [inv_div] at hinverse
    linarith
  have hlogb : t ≤ logb 2 (v / u) := by
    rw [logb, le_div_iff₀ (Real.log_pos one_lt_two)]
    refine (mul_le_of_le_one_right ht ?_).trans hlog
    linarith [Real.log_two_lt_d9]
  rw [Real.logb_div hv.ne' hu.ne'] at hlogb
  linarith

/-! ## Mantissas -/

/-- The unit of a mantissa, as a part of one. -/
noncomputable def cut : ℝ :=
  1 / 2 ^ logarithmPlaces

/-- A mantissa is a number between one and two in units. -/
structure IsMantissa (m : ℕ) : Prop where
  one_le : 2 ^ logarithmPlaces ≤ m
  lt_two : m < 2 ^ (logarithmPlaces + 1)

/-- The binary logarithm of a mantissa. -/
noncomputable def mantissaLog (m : ℕ) : ℝ :=
  logb 2 (m / 2 ^ logarithmPlaces)

variable {m a d : ℕ}

theorem cut_pos : 0 < cut :=
  one_div_pos.mpr (pow_pos two_pos _)

namespace IsMantissa

theorem one_le_real (hm : IsMantissa m) : (1 : ℝ) ≤ m / 2 ^ logarithmPlaces := by
  rw [one_le_div (pow_pos two_pos _)]
  exact_mod_cast hm.one_le

theorem log_nonneg (hm : IsMantissa m) : 0 ≤ mantissaLog m :=
  Real.logb_nonneg one_lt_two hm.one_le_real

theorem log_le_one (hm : IsMantissa m) : mantissaLog m ≤ 1 := by
  have htwo : (m : ℝ) / 2 ^ logarithmPlaces ≤ 2 := by
    rw [div_le_iff₀ (pow_pos two_pos _), ← pow_succ']
    exact_mod_cast hm.lt_two.le
  rw [mantissaLog, Real.logb_le_iff_le_rpow one_lt_two (zero_lt_one.trans_le hm.one_le_real),
    Real.rpow_one]
  exact htwo

/-- Cutting a quotient to the places of a mantissa. -/
theorem log_quotient (hm : IsMantissa (a / d)) (hd : 0 < d) :
    mantissaLog (a / d) ≤ logb 2 (a / d / 2 ^ logarithmPlaces) ∧
      logb 2 (a / d / 2 ^ logarithmPlaces) ≤ mantissaLog (a / d) + 2 * cut := by
  have hone := hm.one_le_real
  have hunit : (0 : ℝ) < 2 ^ logarithmPlaces := pow_pos two_pos _
  have hlower : ((a / d : ℕ) : ℝ) / 2 ^ logarithmPlaces ≤ a / d / 2 ^ logarithmPlaces :=
    div_le_div_of_nonneg_right Nat.cast_div_le hunit.le
  have hupper : (a : ℝ) / d / 2 ^ logarithmPlaces
      ≤ ((a / d : ℕ) : ℝ) / 2 ^ logarithmPlaces + cut := by
    have hnext : (a : ℝ) / d ≤ (a / d : ℕ) + 1 := by
      rw [div_le_iff₀ (by exact_mod_cast hd)]
      exact_mod_cast (Nat.lt_div_mul_add hd).le.trans_eq (by ring)
    rw [cut, ← add_div]
    exact div_le_div_of_nonneg_right hnext hunit.le
  have hpos := zero_lt_one.trans_le (hone.trans hlower)
  exact ⟨Real.logb_le_logb_of_le one_lt_two (zero_lt_one.trans_le hone) hlower,
    logb_le_add hone cut_pos.le hupper hpos⟩

/-- Squaring and halving as often as the mantissa allows doubles the logarithm, less the halvings,
up to what is cut off. -/
theorem log_square {k : ℕ} (hm : IsMantissa m)
    (hnext : IsMantissa (m * m / (2 ^ logarithmPlaces * 2 ^ k))) :
    k + mantissaLog (m * m / (2 ^ logarithmPlaces * 2 ^ k)) ≤ 2 * mantissaLog m ∧
      2 * mantissaLog m
        ≤ k + mantissaLog (m * m / (2 ^ logarithmPlaces * 2 ^ k)) + 2 * cut := by
  have hpos := zero_lt_one.trans_le hm.one_le_real
  have hexact : (((m * m : ℕ) : ℝ) / ((2 ^ logarithmPlaces * 2 ^ k : ℕ) : ℝ)) / 2 ^ logarithmPlaces
      = (m / 2 ^ logarithmPlaces) ^ 2 / 2 ^ k := by
    push_cast
    generalize (2 : ℝ) ^ logarithmPlaces = unit
    field_simp
  have hlog : logb 2 ((m / 2 ^ logarithmPlaces) ^ 2 / 2 ^ k) = 2 * mantissaLog m - k := by
    rw [Real.logb_div (pow_ne_zero 2 hpos.ne') (pow_ne_zero k two_ne_zero), Real.logb_pow,
      Real.logb_pow, Real.logb_self_eq_one one_lt_two, mul_one, Nat.cast_two, mantissaLog]
  have hquotient := hnext.log_quotient (by positivity)
  rw [hexact, hlog] at hquotient
  constructor <;> linarith [hquotient.1, hquotient.2]

/-- A square below two is a mantissa. -/
theorem square (hm : IsMantissa m) (h : ¬2 ^ (logarithmPlaces + 1) ≤ m * m / 2 ^ logarithmPlaces) :
    IsMantissa (m * m / 2 ^ logarithmPlaces) where
  one_le := by
    rw [Nat.le_div_iff_mul_le (Nat.two_pow_pos _)]
    exact Nat.mul_le_mul hm.one_le hm.one_le
  lt_two := Nat.lt_of_not_le h

/-- A square that reaches two is below four, and half of it is a mantissa. -/
theorem square_half (h : 2 ^ (logarithmPlaces + 1) ≤ m * m / 2 ^ logarithmPlaces)
    (hm : IsMantissa m) : IsMantissa (m * m / 2 ^ logarithmPlaces / 2) where
  one_le := by
    rwa [Nat.le_div_iff_mul_le two_pos, ← Nat.pow_add_one]
  lt_two := by
    have hfour : m * m / 2 ^ logarithmPlaces < 2 ^ (logarithmPlaces + 1) * 2 := by
      rw [Nat.div_lt_iff_lt_mul (Nat.two_pow_pos _), Nat.mul_assoc, ← Nat.pow_add_one']
      exact Nat.mul_lt_mul'' hm.lt_two hm.lt_two
    omega

end IsMantissa

/-! ## The bits of a logarithm -/

/-- The bits that are read off are those of the logarithm: it is not below the number they make, and
above it by less than the last bit and what the cuts take off. -/
theorem logarithmBits_bounds (count : ℕ) {m : ℕ} (bits : ℕ) (hm : IsMantissa m) :
    (logarithmBits count m bits : ℝ) ≤ 2 ^ count * (bits + mantissaLog m) ∧
      2 ^ count * (bits + mantissaLog m)
        ≤ logarithmBits count m bits + 1 + 2 ^ count * (2 * cut) := by
  induction count generalizing m bits with
  | zero =>
    rw [logarithmBits, pow_zero, one_mul, one_mul]
    have hcut := cut_pos
    constructor <;> linarith [hm.log_nonneg, hm.log_le_one]
  | succ count ih =>
    have hscale : (0 : ℝ) < 2 ^ count := pow_pos two_pos _
    rw [logarithmBits, pow_succ (2 : ℝ) count]
    -- In both cases the doubled logarithm is the bit, the logarithm of what is left, and a cut.
    split
    case isTrue hbit =>
      have hnext := IsMantissa.square_half hbit hm
      obtain ⟨hlow, hhigh⟩ := ih (2 * bits + 1) hnext
      rw [Nat.div_div_eq_div_mul] at hlow hhigh hnext ⊢
      obtain ⟨hdouble1, hdouble2⟩ := hm.log_square (k := 1) hnext
      rw [pow_one] at hdouble1 hdouble2
      push_cast at hlow hhigh hdouble1 hdouble2
      have hscaled1 := mul_le_mul_of_nonneg_left hdouble1 hscale.le
      have hscaled2 := mul_le_mul_of_nonneg_left hdouble2 hscale.le
      constructor <;> linarith
    case isFalse hbit =>
      have hnext := hm.square hbit
      obtain ⟨hlow, hhigh⟩ := ih (2 * bits) hnext
      have hsame : 2 ^ logarithmPlaces * 2 ^ 0 = 2 ^ logarithmPlaces := Nat.mul_one _
      obtain ⟨hdouble1, hdouble2⟩ := hm.log_square (k := 0) (by rwa [hsame])
      rw [hsame] at hdouble1 hdouble2
      push_cast at hlow hhigh hdouble1 hdouble2
      have hscaled1 := mul_le_mul_of_nonneg_left hdouble1 hscale.le
      have hscaled2 := mul_le_mul_of_nonneg_left hdouble2 hscale.le
      constructor <;> linarith

/-- The significand, moved so that its leading bit is the unit, is a mantissa. -/
theorem isMantissa_lead {n : ℕ} (hn : n ≠ 0) :
    IsMantissa (n * 2 ^ logarithmPlaces / 2 ^ n.log2) where
  one_le := by
    rw [Nat.le_div_iff_mul_le (Nat.two_pow_pos _), Nat.mul_comm]
    exact Nat.mul_le_mul_right _ (Nat.log2_self_le hn)
  lt_two := by
    rw [Nat.div_lt_iff_lt_mul (Nat.two_pow_pos _), Nat.pow_add_one', Nat.mul_right_comm,
      ← Nat.pow_add_one']
    exact Nat.mul_lt_mul_of_pos_right Nat.lt_log2_self (Nat.two_pow_pos _)

/-- The logarithm of a positive number is that of its leading part and the place of the lead. -/
theorem logb_value {b : Binary} (hb : b.significand ≠ 0) :
    logb 2 |(b.value : ℝ)|
      = b.significand.log2 + b.exponent + logb 2 (b.significand / 2 ^ b.significand.log2) := by
  have hn : (b.significand : ℝ) ≠ 0 := Nat.cast_ne_zero.mpr hb
  rw [← Rat.cast_abs, abs_value]
  push_cast
  rw [Real.logb_mul hn (zpow_ne_zero _ two_ne_zero), ← Real.rpow_intCast,
    Real.logb_rpow two_pos one_lt_two.ne', Real.logb_div hn (pow_ne_zero _ two_ne_zero),
    Real.logb_pow, Real.logb_self_eq_one one_lt_two]
  ring

/-- **The logarithm in fixed point is not above the exact one, and misses it by at most two.** -/
theorem binaryLogarithm_bounds {b : Binary} (hb : b.significand ≠ 0) :
    (binaryLogarithm b : ℝ) ≤ 2 ^ 128 * logb 2 |(b.value : ℝ)| ∧
      2 ^ 128 * logb 2 |(b.value : ℝ)| ≤ binaryLogarithm b + 2 := by
  have hm := isMantissa_lead hb
  have hlead : ((b.significand * 2 ^ logarithmPlaces : ℕ) : ℝ) / (2 ^ b.significand.log2 : ℕ)
      / 2 ^ logarithmPlaces = b.significand / 2 ^ b.significand.log2 := by
    have hunit : (2 : ℝ) ^ logarithmPlaces ≠ 0 := pow_ne_zero _ two_ne_zero
    push_cast
    rw [div_right_comm, mul_div_assoc, div_self hunit, mul_one]
  obtain ⟨hlow, hhigh⟩ := hm.log_quotient (Nat.two_pow_pos _)
  obtain ⟨hbits1, hbits2⟩ := logarithmBits_bounds 128 0 hm
  have hcut : (2 : ℝ) ^ 128 * (4 * cut) ≤ 1 := by
    rw [cut, logarithmPlaces]
    norm_num
  rw [hlead] at hlow hhigh
  rw [logb_value hb, binaryLogarithm]
  push_cast at hbits1 hbits2 ⊢
  constructor <;> linarith

end Formulary.Number
