/-
Formulary.Proofs.Decimals — a numeral is read as a nearest double.

The exact number of a decimal numeral is rational, and reading rounds it: to a nearest double, or
to infinity if it is too large. Reading takes one of three ways. Numerals whose leading digit stands
far from the point are settled by its place. A short numeral with a small power of ten is one
product or quotient of two exact doubles. All others go through an exact product or quotient of
integers.
-/
import Formulary.Number.Reading
import Formulary.Proofs.Remainder

namespace Formulary.Number

open Float.Model (UnpackedFloat)
open Float.Model.Format (binary64)
open Float.Model.UnpackedFloat (Sign unpack pack)
open Rounding

variable {x y : Float} {b c : Binary} {q : ℚ} {m e : ℕ}

/-! ## Exact doubles -/

/-- Rounding keeps what a double can hold. -/
theorem IsRounded.exact (h : IsRounded c.value x) (hy : Binary.ofFloat? y = some c) :
    ∃ z, Binary.ofFloat? x = some z ∧ z.value = c.value := by
  obtain ⟨z, hz, hnearest⟩ := h.nearest (holds_of_ofFloat? hy).abs_lt
  refine ⟨z, hz, ?_⟩
  have hzero := hnearest y c hy
  rw [sub_self, abs_zero] at hzero
  exact (sub_eq_zero.mp (abs_nonpos_iff.mp hzero)).symm

/-- A whole number with a power of two for a unit is a double, if it has few enough places. -/
theorem exists_toFloat {k : ℤ} (hm : m < 2 ^ 53) (hleast : -1074 ≤ k) (hmost : k ≤ 971) :
    ∃ z, Binary.ofFloat? (Binary.mk false m k).toFloat = some z ∧ z.value = m * 2 ^ k := by
  obtain ⟨z, hz, hvalue⟩ := (holds_toFloat (b := ⟨false, m, k⟩) hm hleast hmost).ofFloat?
  exact ⟨z, hz, hvalue.trans (value_mk .positive m k)⟩

theorem isRounded_toFloat (n : UInt64) : IsRounded n.toNat n.toFloat := by
  have hrounded : IsRoundedToEven (((n.toNat : ℤ) : ℚ) * 2 ^ (0 : ℤ)) n.toFloat :=
    isRoundedToEven_normalize rfl
  rw [Int.cast_natCast, zpow_zero, mul_one] at hrounded
  exact hrounded.toIsRounded

/-- A whole number of few enough places is a double. -/
theorem exists_ofNat (hm : m < 2 ^ 53) :
    ∃ z, Binary.ofFloat? m.toUInt64.toFloat = some z ∧ z.value = m := by
  have hcast : m.toUInt64.toNat = m := by
    refine UInt64.toNat_ofNat_of_lt' ?_
    change m < 2 ^ 64
    omega
  obtain ⟨c, hc, hvalue⟩ := exists_toFloat (k := 0) hm (by decide) (by decide)
  rw [zpow_zero, mul_one] at hvalue
  have hrounded := isRounded_toFloat m.toUInt64
  rw [hcast, ← hvalue] at hrounded
  rw [← hvalue]
  exact hrounded.exact hc

/-- The tabulated powers of ten are those. -/
theorem exists_powerOfTen (he : e < 23) :
    ∃ z, Binary.ofFloat? (getElem Float.exactlyRepresentablePowersOfTen e he) = some z ∧
      z.value = 10 ^ e := by
  have htable : ∀ i : Fin 23, 5 ^ i.val < 2 ^ 53 ∧
      getElem Float.exactlyRepresentablePowersOfTen i.val i.isLt
        = (Binary.mk false (5 ^ i.val) i.val).toFloat := by
    decide +kernel
  obtain ⟨hfits, htable⟩ := htable ⟨e, he⟩
  obtain ⟨z, hz, hvalue⟩ := exists_toFloat (k := e) hfits (by omega) (by omega)
  refine ⟨z, (congrArg _ htable).trans hz, ?_⟩
  rw [hvalue, zpow_natCast, Nat.cast_pow, ← mul_pow]
  norm_num

/-! ## Reading -/

variable {exponent : ℤ}

theorem ten_zpow_of_neg (h : exponent < 0) : (10 : ℚ) ^ exponent = (10 ^ exponent.natAbs)⁻¹ := by
  rw [← zpow_natCast, ← zpow_neg]
  congr 1
  omega

theorem ten_zpow_of_nonneg (h : 0 ≤ exponent) : (10 : ℚ) ^ exponent = 10 ^ exponent.natAbs := by
  rw [← zpow_natCast]
  congr 1
  omega

/-- A mantissa that was moved up has places enough for rounding. -/
theorem target_of_places {n : ℕ} (hm : m ≠ 0) (hn : n ≠ 0) :
    -53 + 0 ≤ target (m <<< 53 * n) (-53 + 0) := by
  have hlog : (m <<< 53 * n).log2 = (m * n).log2 + 53 := by
    rw [← log2_shiftLeft (Nat.mul_ne_zero hm hn), Nat.shiftLeft_eq, Nat.shiftLeft_eq,
      Nat.mul_right_comm]
  rw [target_eq, hlog]
  omega

/-- A product or quotient of integers is rounded once. -/
theorem isRounded_unpacked (hlow : -(2048 + (m.log2 : ℤ)) ≤ exponent) (hhigh : exponent ≤ 2048)
    (hx : x.toModel.unpack = unpack binary64 (pack binary64
      (UnpackedFloat.ofScientific binary64 m exponent))) :
    IsRounded (m * 10 ^ exponent) x := by
  rw [UnpackedFloat.ofScientific] at hx
  by_cases hm : m = 0
  · rw [dif_pos hm] at hx
    rw [hm, Nat.cast_zero, zero_mul]
    exact Holds.isRounded_zero hx
  · have hbits : (2 : ℤ) ^ binary64.exponentBits = 2048 := by norm_num
    rw [dif_neg hm, hbits, if_neg (by omega), if_neg (by omega)] at hx
    split at hx
    case isTrue hpos =>
      have hpower : (10 : ℕ) ^ exponent.toNat ≠ 0 := pow_ne_zero _ (by decide)
      have hvalue : (m * 10 ^ exponent : ℚ)
          = (m <<< 53 : ℕ) * 2 ^ (-53 : ℤ) * ((10 ^ exponent.toNat : ℕ) * 2 ^ (0 : ℤ)) := by
        have hmoved := shiftLeft_value m (show (-53 : ℤ) ≤ 0 by decide)
        have hshift : ((0 : ℤ) - -53).toNat = 53 := by decide
        have hsize : exponent.natAbs = exponent.toNat := by omega
        rw [hshift] at hmoved
        rw [hmoved, zpow_zero, mul_one, mul_one, ten_zpow_of_nonneg hpos, hsize, Nat.cast_pow,
          Nat.cast_ofNat]
      rw [hvalue]
      exact isRounded_finite_mul (s := .positive) (target_of_places hm hpower) hx
    case isFalse hneg =>
      have hvalue : (m * 10 ^ exponent : ℚ)
          = m * 2 ^ (0 : ℤ) / ((10 ^ (-exponent).toNat : ℕ) * 2 ^ (0 : ℤ)) := by
        have hsize : exponent.natAbs = (-exponent).toNat := by omega
        rw [zpow_zero, mul_one, mul_one, ten_zpow_of_neg (not_le.mp hneg), hsize, Nat.cast_pow,
          Nat.cast_ofNat, div_eq_mul_inv]
      rw [hvalue]
      exact isRounded_finite_div (s := .positive) hx

/-- A decimal is rounded, as long as its power of ten is not far out. -/
theorem isRounded_ofScientific (hlow : -(2048 + (m.log2 : ℤ)) ≤ exponent)
    (hhigh : exponent ≤ 2048) :
    IsRounded (m * 10 ^ exponent)
      (Float.ofScientific m (exponent < 0) exponent.natAbs) := by
  rw [Float.ofScientific]
  split
  case isTrue hshort =>
    obtain ⟨hm, he⟩ := hshort
    obtain ⟨b, hb, hbvalue⟩ := exists_ofNat hm
    obtain ⟨c, hc, hcvalue⟩ := exists_powerOfTen (Nat.lt_succ_of_le he)
    simp only [decide_eq_true_eq]
    rw [← hbvalue]
    split
    case isTrue hneg =>
      rw [ten_zpow_of_neg hneg, ← hcvalue, ← div_eq_mul_inv]
      refine isRounded_div hb hc ?_
      rw [hcvalue]
      positivity
    case isFalse hneg =>
      rw [ten_zpow_of_nonneg (not_lt.mp hneg), ← hcvalue]
      exact isRounded_mul hb hc
  case isFalse hlong =>
    have hexponent : (if decide (exponent < 0) = true then Int.negOfNat exponent.natAbs
        else Int.ofNat exponent.natAbs) = exponent := by
      simp only [decide_eq_true_eq, Int.negOfNat_eq, Int.ofNat_eq_natCast]
      omega
    simp only [hexponent]
    exact isRounded_unpacked hlow hhigh rfl

/-- **An integer is read as the nearest double**, or as infinity if it is too large for one. -/
theorem isRounded_ofNat (n : ℕ) : IsRounded n (Float.ofNat n) := by
  have hrounded : IsRounded ((n : ℚ) * 10 ^ (0 : ℤ)) (Float.ofNat n) :=
    isRounded_ofScientific (by omega) (by decide)
  rwa [zpow_zero, mul_one] at hrounded

/-! ## Far from the point -/

/-- What is at most half the least positive double is rounded to zero. -/
theorem isRounded_of_tiny (hq : 0 ≤ q) (htiny : q * 2 ≤ 2 ^ (-1074 : ℤ)) : IsRounded q 0.0 := by
  have hzero : Holds (0.0 : Float).toModel.unpack 0 := Holds.zero .positive
  obtain ⟨z, hz, hvalue⟩ := hzero.ofFloat?
  refine ⟨fun hlarge => absurd hlarge (not_le.mpr ?_), fun _ => ⟨z, hz, fun y w hw => ?_⟩⟩
  · have hhalf : (1 / 2 : ℚ) * 2 ^ (-1074 : ℤ) < tooLarge := by
      refine lt_tooLarge (c := 1) (k := 971) (by norm_num) zero_le_one (by norm_num) ?_
      rw [tooLarge_eq]
      exact mul_le_mul_of_nonneg_right (by norm_num) (two_zpow_pos 971).le
    rw [abs_of_nonneg hq]
    linarith
  · rw [hvalue, sub_zero, abs_of_nonneg hq]
    by_cases hw0 : w.significand = 0
    · have hvalue : w.value = 0 := by
        rw [← abs_eq_zero, abs_value, hw0, Nat.cast_zero, zero_mul]
      rw [hvalue, sub_zero, abs_of_nonneg hq]
    · -- Every other double is at least twice as far from zero.
      have hleast : (2 : ℚ) ^ (-1074 : ℤ) ≤ |w.value| := by
        have hone : (1 : ℚ) ≤ w.significand := by exact_mod_cast Nat.pos_of_ne_zero hw0
        rw [abs_value, ← one_mul ((2 : ℚ) ^ (-1074 : ℤ))]
        exact mul_le_mul hone
          (zpow_le_zpow_right₀ one_le_two (canonical_of_ofFloat? hw).1.le_exponent)
          (two_zpow_pos _).le (Nat.cast_nonneg _)
      have htriangle := abs_sub_abs_le_abs_sub w.value q
      rw [abs_of_nonneg hq, abs_sub_comm] at htriangle
      linarith

theorem isRounded_of_huge (hhuge : tooLarge ≤ q) : IsRounded q infinity := by
  have hpos : 0 < q := tooLarge_pos.trans_le hhuge
  have hsize := abs_of_pos hpos
  exact ⟨fun _ => (if_neg hpos.not_gt).symm, fun hsmall => absurd (hsize ▸ hsmall) hhuge.not_gt⟩

/-- A number has as many digits as its size says. -/
theorem natText_bounds {n : ℕ} (hn : n ≠ 0) :
    10 ^ ((natText n).length - 1) ≤ n ∧ n < 10 ^ (natText n).length := by
  have hpos : 0 < (natText n).length := Nat.length_toDigits_pos
  refine ⟨?_, (Nat.length_toDigits_le_iff (by decide) hpos).mp le_rfl⟩
  by_contra hlt
  rcases Nat.eq_zero_or_pos ((natText n).length - 1) with hone | hmore
  · rw [hone] at hlt
    omega
  · have hle := (Nat.length_toDigits_le_iff (by decide) hmore).mpr (not_le.mp hlt)
    change (natText n).length ≤ _ at hle
    omega

/-- The powers of ten from which reading does not look at the digits. -/
theorem ten_zpow_bounds :
    (10 : ℚ) ^ (-400 : ℤ) * 2 ≤ 2 ^ (-1074 : ℤ) ∧ tooLarge ≤ 10 ^ (400 : ℤ) := by
  constructor
  · have hroot : (10 : ℚ) ^ (-16 : ℤ) ≤ 2 ^ (-43 : ℤ) := by norm_num
    have hpower := pow_le_pow_left₀ (zpow_nonneg (by norm_num) _) hroot 25
    rw [← zpow_natCast, ← zpow_natCast, ← zpow_mul, ← zpow_mul] at hpower
    calc (10 : ℚ) ^ (-400 : ℤ) * 2 ≤ 2 ^ (-1075 : ℤ) * 2 :=
          mul_le_mul_of_nonneg_right hpower zero_le_two
      _ = 2 ^ (-1074 : ℤ) := (zpow_add_one₀ two_ne_zero (-1075)).symm
  · have hroot : (2 : ℚ) ^ 64 ≤ 10 ^ 25 := by norm_num
    have hpower := pow_le_pow_left₀ (by positivity) hroot 16
    rw [← pow_mul, ← pow_mul] at hpower
    calc tooLarge ≤ 2 ^ 1024 := sub_le_self _ (by positivity)
      _ ≤ 10 ^ 400 := hpower
      _ = 10 ^ (400 : ℤ) := (zpow_natCast 10 400).symm

/-- **A decimal is read as the nearest double**, or as infinity if it is too large for one. -/
theorem isRounded_ofDecimal (digits : ℕ) (exponent : ℤ) :
    IsRounded (digits * 10 ^ exponent) (ofDecimal digits exponent) := by
  rw [ofDecimal]
  by_cases hdigits : digits = 0
  · rw [if_pos hdigits, hdigits, Nat.cast_zero, zero_mul]
    exact Holds.isRounded_zero (s := .positive) rfl
  · obtain ⟨hleast, hmost⟩ := natText_bounds hdigits
    have hlength : 0 < (natText digits).length := Nat.length_toDigits_pos
    have hten : (0 : ℚ) < 10 ^ exponent := zpow_pos (by norm_num) _
    have hlow : (10 : ℚ) ^ (((natText digits).length : ℤ) + exponent - 1)
        ≤ digits * 10 ^ exponent := by
      have hsplit : ((natText digits).length : ℤ) + exponent - 1
          = ((natText digits).length - 1 : ℕ) + exponent := by omega
      rw [hsplit, zpow_add₀ (by norm_num), zpow_natCast]
      exact mul_le_mul_of_nonneg_right (by exact_mod_cast hleast) hten.le
    have hhigh : digits * 10 ^ exponent
        < (10 : ℚ) ^ (((natText digits).length : ℤ) + exponent) := by
      rw [zpow_add₀ (by norm_num), zpow_natCast]
      exact mul_lt_mul_of_pos_right (by exact_mod_cast hmost) hten
    rw [if_neg hdigits]
    simp only
    generalize hlead : ((natText digits).length : ℤ) + exponent = lead at hlow hhigh
    split
    case isTrue hfar =>
      refine isRounded_of_tiny (by positivity) ?_
      have hsmall : (10 : ℚ) ^ lead ≤ 10 ^ (-400 : ℤ) :=
        zpow_le_zpow_right₀ (by norm_num) (by omega)
      linarith [ten_zpow_bounds.1]
    case isFalse hnear =>
      split
      case isTrue hfar =>
        refine isRounded_of_huge (le_trans ?_ hlow)
        exact ten_zpow_bounds.2.trans (zpow_le_zpow_right₀ (by norm_num) (by omega))
      case isFalse =>
        have hplaces : (natText digits).length ≤ digits.log2 + 1 := by
          refine (Nat.length_toDigits_le_iff (by decide) (by omega)).mpr ?_
          exact Nat.lt_log2_self.trans_le (Nat.pow_le_pow_left (by decide) _)
        exact isRounded_ofScientific (by omega) (by omega)

end Formulary.Number
