/-
Formulary.Proofs.HalfAway — rounding to an integer, and the numbers that it misses.

A number is rounded by adding a half to its size and taking the floor. In exact arithmetic this
gives the nearest integer, and of two the one that is farther from zero. But the sum is a sum of
doubles, and it is rounded before the floor is taken. From `2 ^ 52` on the next double above a size
is an integer, so there is no room for a half: between `2 ^ 52` and `2 ^ 53` the sum is halfway
between two integers, and the even one is taken, which is not the number itself if that is odd. From
`2 ^ 53` on a half is too little to change anything. Below `2 ^ 52` rounding never carries the sum
up to the next integer, but for one size: the sum of the last double below a half is halfway between
the last double below one and one itself, and goes up.

So rounding to an integer is rounding half away from zero, except for that one size and the odd
integers between `2 ^ 52` and `2 ^ 53`, for which it gives the next integer away from zero
(`IsRoundedOff`).
-/
import Formulary.Proofs.Overflow

namespace Formulary

open Float.Model (UnpackedFloat)
open Float.Model.Format (binary64)
open Float.Model.UnpackedFloat (Sign unpack pack)
open Number Rounding

variable {x y : Float} {b c w z : Binary} {q v : ℚ} {a m : ℕ} {k n : ℤ}

/-! ## Rounding half away from zero -/

/-- The integer is the nearest one, and of two the one that is farther from zero. -/
structure IsHalfAway (v : ℚ) (n : ℤ) : Prop where
  near : |v - n| ≤ 1 / 2
  away : |v - n| = 1 / 2 → |v| < |(n : ℚ)|

/-- The numbers for which adding a half carries too far: those of the last size below a half, and
the odd integers that take up all places of a double. -/
def IsMissed (v : ℚ) : Prop :=
  |v| = 1 / 2 - 1 / 2 ^ 54 ∨ ∃ a : ℕ, |v| = a ∧ a % 2 = 1 ∧ 2 ^ 52 < a ∧ a < 2 ^ 53

/-- The integer that rounding gives: the right one, or the next one away from zero. -/
structure IsRoundedOff (v : ℚ) (n : ℤ) : Prop where
  kept : ¬IsMissed v → IsHalfAway v n
  missed : IsMissed v → 0 < v * n ∧ |n| = ⌊|v|⌋ + 1 ∧ 1 / 2 < |v - n|

namespace IsHalfAway

theorem le (hn : IsHalfAway v n) (hk : IsHalfAway v k) : k ≤ n := by
  by_contra hlt
  have hnext : (n : ℚ) + 1 ≤ k := by exact_mod_cast not_le.mp hlt
  obtain ⟨-, hbelow⟩ := abs_le.mp hn.near
  obtain ⟨habove, -⟩ := abs_le.mp hk.near
  -- The two are next to each other, with the number in the middle.
  have hv : v = n + 1 / 2 := by linarith
  have hkn : (k : ℚ) = n + 1 := by linarith
  have hnfar := hn.away (by rw [hv, add_sub_cancel_left]; norm_num)
  have hkfar := hk.away (by rw [hv, hkn, add_sub_add_left_eq_sub]; norm_num)
  rcases le_or_gt 0 n with hpos | hneg
  · have hposQ : (0 : ℚ) ≤ n := by exact_mod_cast hpos
    rw [hv, abs_of_nonneg hposQ, abs_of_nonneg (by linarith)] at hnfar
    linarith
  · have hnegQ : (n : ℚ) + 1 ≤ 0 := by exact_mod_cast hneg
    rw [hv, hkn, abs_of_nonpos hnegQ, abs_of_nonpos (by linarith)] at hkfar
    linarith

/-- There is no other such integer. -/
theorem unique (hn : IsHalfAway v n) (hk : IsHalfAway v k) : n = k :=
  le_antisymm (hk.le hn) (hn.le hk)

/-- An integer is its own nearest one. -/
theorem self (k : ℤ) : IsHalfAway k k where
  near := by
    rw [sub_self, abs_zero]
    norm_num
  away := by
    rw [sub_self, abs_zero]
    norm_num

/-- In exact arithmetic, adding a half to the size and taking the floor is right. -/
theorem of_floor {s : Sign} (hq : 0 ≤ q) (hn : (n : ℚ) = ofSign s ⌊q + 1 / 2⌋) :
    IsHalfAway (ofSign s q) n := by
  have hlow := Int.floor_le (q + 1 / 2)
  have hhigh := Int.lt_floor_add_one (q + 1 / 2)
  generalize ⌊q + 1 / 2⌋ = f at hn hlow hhigh
  have hdistance : |ofSign s q - n| = |q - f| := by rw [hn, ofSign_sub, abs_ofSign]
  constructor
  · rw [hdistance, abs_le]
    constructor <;> linarith
  · intro htie
    rw [hdistance] at htie
    have hf : (f : ℚ) = q + 1 / 2 := by
      rcases (abs_eq (by norm_num)).mp htie with habove | hbelow <;> linarith
    rw [hn, abs_ofSign, abs_ofSign, hf, abs_of_nonneg hq, abs_of_nonneg (by linarith)]
    linarith

end IsHalfAway

/-! ## Numbers that are missed -/

/-- Of whole numbers, the odd ones that take up all places are missed. -/
theorem isMissed_natCast (hv : |v| = m) : IsMissed v ↔ m % 2 = 1 ∧ 2 ^ 52 < m ∧ m < 2 ^ 53 := by
  rw [IsMissed, hv]
  constructor
  · rintro (hlast | ⟨a, ha, hodd⟩)
    · have hpos : (0 : ℚ) < m := by norm_num [hlast]
      have hone : (m : ℚ) < 1 := by norm_num [hlast]
      rw [Nat.cast_pos] at hpos
      rw [Nat.cast_lt_one] at hone
      omega
    · rwa [Nat.cast_inj.mp ha]
  · exact fun hodd => .inr ⟨m, rfl, hodd⟩

/-- From a half on, only numbers between `2 ^ 52` and `2 ^ 53` are missed. -/
theorem not_isMissed (hlow : 1 / 2 ≤ |v|) (h : |v| ≤ 2 ^ 52 ∨ 2 ^ 53 ≤ |v|) : ¬IsMissed v := by
  rintro (hlast | ⟨a, ha, -, hleast, hmost⟩)
  · rw [hlast] at hlow
    norm_num at hlow
  · have hleastQ : (2 : ℚ) ^ 52 < a := by exact_mod_cast hleast
    have hmostQ : (a : ℚ) < 2 ^ 53 := by exact_mod_cast hmost
    rcases h with h | h <;> linarith

/-- Below a half, only the last size is missed. -/
theorem not_isMissed_of_small (hsmall : |v| < 1 / 2 - 1 / 2 ^ 54) : ¬IsMissed v := by
  rintro (hlast | ⟨a, ha, -, hleast, -⟩)
  · exact absurd hlast hsmall.ne
  · have hleastQ : (2 : ℚ) ^ 52 < a := by exact_mod_cast hleast
    linarith

/-- A number that is missed is nearer to its floor than to the next integer. -/
theorem IsMissed.lt_floor (h : IsMissed v) : 0 < |v| ∧ |v| < ⌊|v|⌋ + 1 / 2 := by
  rcases h with hlast | ⟨a, ha, -, hleast, -⟩
  · have hfloor : ⌊|v|⌋ = 0 := by
      rw [Int.floor_eq_zero_iff, hlast]
      norm_num
    rw [hfloor, hlast]
    norm_num
  · rw [ha, Int.floor_natCast]
    have hleastQ : (2 : ℚ) ^ 52 < a := by exact_mod_cast hleast
    push_cast
    constructor <;> linarith

/-- Integers up to `2 ^ 53` are kept by rounding as long as they are even or at most `2 ^ 52`. -/
theorem IsRoundedOff.eq_iff (h : IsRoundedOff v n) (hv : v = k) (hk : |k| ≤ 2 ^ 53) :
    n = k ↔ |k| ≤ 2 ^ 52 ∨ k % 2 = 0 := by
  rw [Int.abs_eq_natAbs] at hk ⊢
  have hmissed : IsMissed v ↔ ¬((k.natAbs : ℤ) ≤ 2 ^ 52 ∨ k % 2 = 0) := by
    rw [isMissed_natCast (m := k.natAbs) (by rw [hv, Nat.cast_natAbs, Int.cast_abs])]
    omega
  rw [← not_iff_not, ← hmissed]
  constructor
  · intro hne
    by_contra hkept
    exact hne ((h.kept hkept).unique (hv ▸ .self k))
  · rintro hm rfl
    have hfar := (h.missed hm).2.2
    rw [hv, sub_self, abs_zero] at hfar
    norm_num at hfar

/-! ## Nearest doubles -/

/-- A whole number up to `2 ^ 53` is a double. -/
theorem exists_ofNat_le (ha : a ≤ 2 ^ 53) :
    ∃ y w, Binary.ofFloat? y = some w ∧ w.value = a := by
  rcases ha.lt_or_eq with hlt | rfl
  · obtain ⟨w, hw, hvalue⟩ := exists_toFloat (k := 0) hlt (by decide) (by decide)
    exact ⟨_, w, hw, by rw [hvalue, zpow_zero, mul_one]⟩
  · obtain ⟨w, hw, hvalue⟩ := exists_toFloat (m := 1) (k := 53) (by decide) (by decide) (by decide)
    exact ⟨_, w, hw, by rw [hvalue]; norm_num⟩

/-- The last double below one has the greatest significand, which is odd. -/
theorem Rounding.Canonical.eq_last {e : ℤ} (h : Canonical m e)
    (hlow : 1 - 1 / 2 ^ 53 ≤ (m : ℚ) * 2 ^ e) (hlt : (m : ℚ) * 2 ^ e < 1) :
    e = -53 ∧ m = 2 ^ 53 - 1 := by
  have he : e = -53 := by
    refine le_antisymm ?_ ?_
    · by_contra hlarge
      have hleast := h.units_le (t := -52) (by decide) (by omega)
      norm_num at hleast
      linarith
    · by_contra hsmall
      have hmost := h.lt_units (t := -54) (by omega)
      norm_num at hmost hlow
      linarith
  have hunit : (2 : ℚ) ^ (-53 : ℤ) = 1 / 2 ^ 53 := by norm_num
  rw [he, hunit] at hlow
  have hleast : (2 : ℚ) ^ 53 ≤ m + 1 := by linarith
  have hleast' : 2 ^ 53 ≤ m + 1 := by exact_mod_cast hleast
  have hmost := h.lt
  exact ⟨he, by omega⟩

/-- The double is nearest to a number that is not negative, and if another one is as near, it has
the even significand. -/
structure IsNearest (q : ℚ) (z : Binary) : Prop where
  canonical : Canonical z.significand z.exponent
  value : z.value = z.significand * 2 ^ z.exponent
  near : ∀ y w, Binary.ofFloat? y = some w → |q - z.value| ≤ |q - w.value|
  even : ∀ y w, Binary.ofFloat? y = some w → 0 ≤ w.value → |q - w.value| = |q - z.value| →
    w.value = z.value ∨ z.significand % 2 = 0

namespace IsNearest

theorem of_isRoundedToEven (h : IsRoundedToEven q y) (hq : 0 ≤ q) (hsmall : q < tooLarge) :
    ∃ z, Binary.ofFloat? y = some z ∧ IsNearest q z := by
  have hsize := abs_of_nonneg hq
  obtain ⟨z, hz, hnear⟩ := h.nearest (hsize.trans_lt hsmall)
  have hnonneg : 0 ≤ z.value := by
    obtain ⟨zero, w, hw, hvalue⟩ := exists_ofNat_le (a := 0) (by decide)
    have hzero := hnear zero w hw
    rw [hvalue, Nat.cast_zero, sub_zero, hsize] at hzero
    linarith [le_abs_self (q - z.value)]
  refine ⟨z, hz, (canonical_of_ofFloat? hz).1, ?_, hnear, fun y' w hw hpos hsame => ?_⟩
  · rw [← abs_value, abs_of_nonneg hnonneg]
  · have hties := h.even z y' w hz hw
    rw [hsize, abs_of_nonneg hnonneg, abs_of_nonneg hpos] at hties
    exact hties hsame

variable (h : IsNearest q z)
include h

theorem nonneg : 0 ≤ z.value := by
  rw [h.value]
  exact mul_nonneg (Nat.cast_nonneg _) (two_zpow_pos _).le

/-- A number that is a double is kept. -/
theorem value_eq (hw : Binary.ofFloat? y = some w) (hq : w.value = q) : z.value = q := by
  have hzero := h.near y w hw
  rw [hq, sub_self, abs_zero] at hzero
  exact (sub_eq_zero.mp (abs_nonpos_iff.mp hzero)).symm

/-- A half more than a double is rounded to that double at least, and at most to one more. -/
theorem bounds_of_half (hw : Binary.ofFloat? y = some w) (hq : q = w.value + 1 / 2) :
    w.value ≤ z.value ∧ z.value ≤ w.value + 1 := by
  have hnear := h.near y w hw
  rw [hq, add_sub_cancel_left, abs_of_pos (by norm_num : (0 : ℚ) < 1 / 2), abs_le] at hnear
  constructor <;> linarith

/-- Rounding a number less than a half above a whole number does not carry it to another one. -/
theorem floor_of_near (ha : a ≤ 2 ^ 53) (hq : a ≤ q) (hnear : q < a + 1 / 2) :
    ⌊z.value⌋ = a := by
  obtain ⟨y, w, hw, hvalue⟩ := exists_ofNat_le ha
  have hdistance := h.near y w hw
  rw [hvalue, abs_of_nonneg (sub_nonneg.mpr hq), abs_le] at hdistance
  rw [Int.floor_eq_iff, Int.cast_natCast]
  constructor <;> linarith

/-- From `2 ^ 52` on, a double is an integer, and even if its significand is. -/
theorem exists_natCast (hlarge : 2 ^ 52 ≤ z.value) :
    ∃ N : ℕ, z.value = N ∧ (z.significand % 2 = 0 → N % 2 = 0) := by
  have hwhole : 0 ≤ z.exponent := by
    by_contra hlt
    have hsmall := h.canonical.lt_units (t := -1) (by omega)
    have hpower : (2 : ℚ) ^ 53 * 2 ^ (-1 : ℤ) = 2 ^ 52 := by norm_num
    rw [← h.value, hpower] at hsmall
    linarith
  refine ⟨z.significand * 2 ^ z.exponent.toNat, ?_, fun heven => ?_⟩
  · rw [h.value, Nat.cast_mul, Nat.cast_pow, Nat.cast_two, ← zpow_natCast,
      Int.toNat_of_nonneg hwhole]
  · rw [Nat.mul_mod, heven, Nat.zero_mul, Nat.zero_mod]

/-- Halfway from the last double below one to one, rounding goes up, because the last place of that
double is odd. -/
theorem floor_of_last (hq : q = 1 - 1 / 2 ^ 54) : ⌊z.value⌋ = 1 := by
  obtain ⟨y, w, hw, hvalue⟩ := exists_ofNat_le (a := 1) (by decide)
  rw [Nat.cast_one] at hvalue
  have hdistance : |q - w.value| = 1 / 2 ^ 54 := by
    rw [hq, hvalue]
    norm_num
  have hnear := h.near y w hw
  rw [hdistance, abs_le] at hnear
  have hone : 1 ≤ z.value := by
    by_contra hlt
    have hlow : 1 - 1 / 2 ^ 53 ≤ z.value := by linarith
    rw [h.value] at hlow hlt
    obtain ⟨hexponent, hodd⟩ := h.canonical.eq_last hlow (not_le.mp hlt)
    have hlast : z.value = 1 - 1 / 2 ^ 53 := by
      rw [h.value, hexponent, hodd]
      norm_num
    have hties := h.even y w hw (by rw [hvalue]; exact zero_le_one)
    rw [hdistance, hvalue, hq, hlast, hodd] at hties
    rcases hties (by norm_num) with hequal | heven
    · norm_num at hequal
    · norm_num at heven
  rw [Int.floor_eq_iff, Int.cast_one]
  exact ⟨hone, by linarith⟩

/-- Before that, rounding does not go up to one. -/
theorem floor_of_lt_last (hq : q < 1 - 1 / 2 ^ 54) : ⌊z.value⌋ = 0 := by
  obtain ⟨w, hw, hvalue⟩ := exists_toFloat (m := 2 ^ 53 - 1) (k := -53) (by decide) (by decide)
    (by decide)
  have hlast : w.value = 1 - 1 / 2 ^ 53 := by
    rw [hvalue]
    norm_num
  have hnear := h.near _ w hw
  have hone : z.value < 1 := by
    by_contra hlt
    have hdistance : |q - w.value| < 1 - q := by
      rw [hlast, abs_lt]
      constructor <;> linarith
    have hfar := neg_abs_le (q - z.value)
    linarith
  rw [Int.floor_eq_zero_iff]
  exact ⟨h.nonneg, hone⟩

end IsNearest

/-! ## A half more than a size -/

/-- The floor of the rounded sum: that of the exact sum, or the integer after the size. -/
structure IsSumFloor (v : ℚ) (f : ℤ) : Prop where
  kept : ¬IsMissed v → f = ⌊|v| + 1 / 2⌋
  missed : IsMissed v → f = ⌊|v|⌋ + 1

theorem IsSumFloor.of_kept {f : ℤ} (hm : ¬IsMissed v) (hf : f = ⌊|v| + 1 / 2⌋) : IsSumFloor v f :=
  ⟨fun _ => hf, fun hmissed => absurd hmissed hm⟩

theorem IsSumFloor.of_missed {f : ℤ} (hm : IsMissed v) (hf : f = ⌊|v|⌋ + 1) : IsSumFloor v f :=
  ⟨fun hkept => absurd hm hkept, fun _ => hf⟩

theorem floor_add_half (k : ℤ) : ⌊(k : ℚ) + 1 / 2⌋ = k := by
  rw [Int.floor_intCast_add, add_eq_left, Int.floor_eq_zero_iff]
  norm_num

section Sum

variable (hb : Canonical b.significand b.exponent) (h : IsNearest (|b.value| + 1 / 2) z)
include hb h

/-- From `2 ^ 53` on, doubles are even integers, and the sum is the size itself. -/
theorem isSumFloor_of_even (hmost : b.exponent ≤ 971) (he : 1 ≤ b.exponent) :
    IsSumFloor b.value ⌊z.value⌋ := by
  obtain ⟨w, hw, hvalue⟩ := exists_toFloat hb.lt hb.le_exponent hmost
  rw [← abs_value] at hvalue
  obtain ⟨hlow, hhigh⟩ := h.bounds_of_half hw (by rw [hvalue])
  rw [hvalue] at hlow hhigh
  have hlarge : 2 ^ 53 ≤ |b.value| := by
    rw [abs_value]
    exact (by norm_num : (2 : ℚ) ^ 53 = 2 ^ 52 * 2 ^ (1 : ℤ)).trans_le (hb.units_le (by decide) he)
  have hze : 1 ≤ z.exponent := by
    by_contra hlt
    have hsmall := h.canonical.lt_units (t := 0) (by omega)
    rw [← h.value, zpow_zero, mul_one] at hsmall
    linarith
  obtain ⟨N, hN⟩ := exists_units b.significand he
  obtain ⟨M, hM⟩ := exists_units z.significand hze
  rw [← abs_value, zpow_one] at hN
  rw [← h.value, zpow_one] at hM
  have hsame : N = M := by
    have hle : (N : ℚ) ≤ M := by linarith
    have hlt : (M : ℚ) < N + 1 := by linarith
    have hle' : N ≤ M := by exact_mod_cast hle
    have hlt' : M < N + 1 := by exact_mod_cast hlt
    omega
  have heven : (M : ℚ) * 2 = ((M * 2 : ℤ) : ℚ) := by push_cast; rfl
  refine .of_kept (not_isMissed (by linarith) (.inr hlarge)) ?_
  rw [hM, hN, hsame, heven, Int.floor_intCast, floor_add_half]

/-- Between `2 ^ 52` and `2 ^ 53`, doubles are integers, and the sum is halfway between two of them:
it is rounded to the even one. -/
theorem isSumFloor_of_integer (he : b.exponent = 0) : IsSumFloor b.value ⌊z.value⌋ := by
  have hsize : |b.value| = b.significand := by rw [abs_value, he, zpow_zero, mul_one]
  rw [hsize] at h
  have hleast := hb.least.resolve_left (by omega)
  have hmost := hb.lt
  obtain ⟨y, w, hw, hvalue⟩ := exists_ofNat_le hb.lt.le
  obtain ⟨hlow, hhigh⟩ := h.bounds_of_half hw (by rw [hvalue])
  rw [hvalue] at hlow hhigh
  obtain ⟨N, hN, heven⟩ := h.exists_natCast <| by
    have hleastQ : (2 : ℚ) ^ 52 ≤ b.significand := by exact_mod_cast hleast
    linarith
  rw [hN] at hlow hhigh
  have hlow' : b.significand ≤ N := by exact_mod_cast hlow
  have hhigh' : N ≤ b.significand + 1 := by exact_mod_cast hhigh
  -- The other of the two integers is as near.
  obtain ⟨other, hother⟩ : ∃ other, N + other = 2 * b.significand + 1 :=
    ⟨2 * b.significand + 1 - N, by omega⟩
  have hNeven : N % 2 = 0 := by
    obtain ⟨y', w', hw', hvalue'⟩ := exists_ofNat_le (a := other) (by omega)
    have hties := h.even y' w' hw' (by rw [hvalue']; exact Nat.cast_nonneg other)
    rw [hvalue', hN, Nat.cast_inj] at hties
    refine (hties ?_).elim (fun hsame => by omega) heven
    have hotherQ : (N : ℚ) + other = 2 * b.significand + 1 := by exact_mod_cast hother
    rw [← abs_neg]
    congr 1
    linarith
  have hfloor : ⌊(b.significand : ℚ) + 1 / 2⌋ = b.significand := by
    exact_mod_cast floor_add_half b.significand
  rw [hN, Int.floor_natCast]
  constructor
  · intro hkept
    rw [isMissed_natCast hsize] at hkept
    rw [hsize, hfloor]
    omega
  · intro hmissed
    rw [isMissed_natCast hsize] at hmissed
    rw [hsize, Int.floor_natCast]
    omega

/-- Between a half and `2 ^ 52` the sum is exact, or it is less than a half above a power of two. -/
theorem isSumFloor_of_fraction (hlow : -53 ≤ b.exponent) (he : b.exponent ≤ -1) :
    IsSumFloor b.value ⌊z.value⌋ := by
  have hkept : ¬IsMissed b.value := by
    have hleast := hb.units_le (t := -53) (by decide) hlow
    have hmost := hb.lt_units he
    rw [← abs_value] at hleast hmost
    refine not_isMissed ?_ (.inl ?_)
    · exact (by norm_num : (1 / 2 : ℚ) = 2 ^ 52 * 2 ^ (-53 : ℤ)).trans_le hleast
    · exact hmost.le.trans_eq (by norm_num)
  obtain ⟨n, hn⟩ : ∃ n : ℕ, b.exponent = -n - 1 := ⟨(-b.exponent - 1).toNat, by omega⟩
  have hhalf : (1 / 2 : ℚ) = 2 ^ n * 2 ^ b.exponent := by
    rw [hn, zpow_sub_one₀ two_ne_zero, zpow_neg, zpow_natCast, ← mul_assoc,
      mul_inv_cancel₀ (pow_ne_zero n two_ne_zero), one_mul, one_div]
  have hsum : |b.value| + 1 / 2 = (b.significand + 2 ^ n : ℕ) * 2 ^ b.exponent := by
    rw [abs_value, hhalf, ← add_mul, Nat.cast_add, Nat.cast_pow, Nat.cast_two]
  refine .of_kept hkept ?_
  by_cases hfits : b.significand + 2 ^ n < 2 ^ 53
  · obtain ⟨w, hw, hvalue⟩ := exists_toFloat hfits hb.le_exponent (by omega)
    rw [h.value_eq hw (hvalue.trans hsum.symm)]
  · -- The power of two is the least number with a greater exponent.
    have hpower : ((2 ^ (52 - n) : ℕ) : ℚ) = 2 ^ 53 * 2 ^ b.exponent := by
      rw [Nat.cast_pow, Nat.cast_two, ← zpow_natCast, ← zpow_natCast, ← zpow_add₀ two_ne_zero]
      congr 1
      omega
    have hle : ((2 ^ (52 - n) : ℕ) : ℚ) ≤ |b.value| + 1 / 2 := by
      rw [hpower, hsum]
      refine mul_le_mul_of_nonneg_right ?_ (two_zpow_pos _).le
      exact_mod_cast not_lt.mp hfits
    have hlt : |b.value| + 1 / 2 < ((2 ^ (52 - n) : ℕ) : ℚ) + 1 / 2 := by
      rw [hpower, abs_value]
      exact add_lt_add_left (hb.lt_units le_rfl) _
    have hbound : 2 ^ (52 - n) ≤ 2 ^ 53 := Nat.pow_le_pow_right two_pos (by omega)
    rw [h.floor_of_near hbound hle hlt, eq_comm, Int.floor_eq_iff, Int.cast_natCast]
    exact ⟨hle, by linarith⟩

/-- Below a half, all sums but that of the last size stay below one. -/
theorem isSumFloor_of_tiny (he : b.exponent ≤ -54) : IsSumFloor b.value ⌊z.value⌋ := by
  have hmost : |b.value| ≤ 1 / 2 - 1 / 2 ^ 54 := by
    rw [abs_value]
    calc (b.significand : ℚ) * 2 ^ b.exponent ≤ (2 ^ 53 - 1) * 2 ^ (-54 : ℤ) :=
          mul_le_mul hb.le_greatest (zpow_le_zpow_right₀ one_le_two he) (two_zpow_pos _).le
            (by norm_num)
      _ = 1 / 2 - 1 / 2 ^ 54 := by norm_num
  have hpos : 0 ≤ |b.value| := abs_nonneg _
  rcases hmost.lt_or_eq with hsmall | hlast
  · refine .of_kept (not_isMissed_of_small hsmall) ?_
    rw [h.floor_of_lt_last (by linarith), eq_comm, Int.floor_eq_zero_iff]
    constructor <;> linarith
  · refine .of_missed (.inl hlast) ?_
    have hfloor : ⌊|b.value|⌋ = 0 := by
      rw [Int.floor_eq_zero_iff]
      constructor <;> linarith
    rw [h.floor_of_last (by linarith), hfloor, zero_add]

end Sum

/-- **The floor of the rounded sum** is that of the exact sum, but for the sizes that are missed. -/
theorem isSumFloor (hx : Binary.ofFloat? x = some b) (h : IsNearest (|b.value| + 1 / 2) z) :
    IsSumFloor b.value ⌊z.value⌋ := by
  obtain ⟨hb, hmost⟩ := canonical_of_ofFloat? hx
  rcases le_or_gt b.exponent (-54) with htiny | hlow
  · exact isSumFloor_of_tiny hb h htiny
  · rcases lt_trichotomy b.exponent 0 with hfraction | hwhole | heven
    · exact isSumFloor_of_fraction hb h (by omega) (by omega)
    · exact isSumFloor_of_integer hb h hwhole
    · exact isSumFloor_of_even hb h hmost heven

/-- With its sign, the floor of the rounded sum is the number rounded off. -/
theorem IsSumFloor.isRoundedOff {f : ℤ} {s : Sign} (h : IsSumFloor v f) (hv : v = ofSign s |v|)
    (hn : (n : ℚ) = ofSign s f) : IsRoundedOff v n := by
  constructor
  · intro hm
    rw [h.kept hm] at hn
    rw [hv]
    exact .of_floor (abs_nonneg _) hn
  · intro hm
    rw [h.missed hm] at hn
    obtain ⟨hpos, hfraction⟩ := hm.lt_floor
    have hnext : (0 : ℚ) < ((⌊|v|⌋ + 1 : ℤ) : ℚ) := by
      push_cast
      linarith
    have hproduct : v * n = |v| * (⌊|v|⌋ + 1 : ℤ) := by
      conv_lhs => rw [hv, hn, ofSign_mul_ofSign]
      cases s <;> rfl
    have hdistance : |v - n| = |(|v|) - (⌊|v|⌋ + 1 : ℤ)| := by
      conv_lhs => rw [hv, hn, ofSign_sub, abs_ofSign]
    refine ⟨?_, ?_, ?_⟩
    · rw [hproduct]
      exact mul_pos hpos hnext
    · rw [← Int.cast_inj (α := ℚ), Int.cast_abs, hn, abs_ofSign, abs_of_pos hnext]
    · rw [hdistance, lt_abs]
      push_cast
      exact .inr (by linarith)

/-! ## The function -/

/-- The floor of a double is the floor of its value. -/
theorem Binary.floor_eq (b : Binary) : b.floor = ⌊b.value⌋ := by
  rw [floor, value]
  split
  case isTrue hwhole =>
    obtain ⟨k, hk⟩ := Int.eq_ofNat_of_zero_le hwhole
    have hcast : (b.signed : ℚ) * 2 ^ (k : ℤ) = (b.signed * 2 ^ k : ℤ) := by
      rw [zpow_natCast, Int.cast_mul, Int.cast_pow, Int.cast_two]
    rw [hk, hcast, Int.floor_intCast]
    rfl
  case isFalse hfraction =>
    obtain ⟨k, hk⟩ := Int.exists_eq_neg_ofNat (not_le.mp hfraction).le
    have hcast : (b.signed : ℚ) * 2 ^ (-(k : ℤ)) = b.signed / ((2 ^ k : ℕ) : ℚ) := by
      rw [zpow_neg, zpow_natCast, Nat.cast_pow, Nat.cast_two, div_eq_mul_inv]
    rw [hk, hcast, Rat.floor_intCast_div_natCast, neg_neg, Int.toNat_natCast, Nat.cast_pow,
      Nat.cast_two]
    exact Int.fdiv_eq_ediv_of_nonneg _ (pow_nonneg two_pos.le k)

theorem Binary.value_opposite (b : Binary) :
    ({ b with negative := !b.negative } : Binary).value = -b.value := by
  obtain ⟨_ | _, significand, exponent⟩ := b <;> simp [value, signed]

theorem ofFloat?_abs (hx : Binary.ofFloat? x = some b) :
    Binary.ofFloat? x.abs = some { b with negative := false } := by
  obtain ⟨v, hparts⟩ : ∃ v, Holds x.toModel.unpack v := ⟨_, holds_of_ofFloat? hx⟩
  have habs : x.abs.toModel.unpack = unpack binary64 (pack binary64 x.toModel.unpack.abs) := rfl
  rw [Binary.ofFloat?_eq] at hx ⊢
  rw [habs]
  generalize x.toModel.unpack = p at hx hparts
  cases hparts with
  | zero s =>
    cases hx
    rw [UnpackedFloat.abs, (Holds.zero .positive).unpack_pack]
    rfl
  | finite s hm hcanonical he =>
    cases hx
    rw [UnpackedFloat.abs, (Holds.finite .positive hm hcanonical he).unpack_pack]
    rfl

theorem ofFloat?_neg (hx : Binary.ofFloat? x = some b) :
    Binary.ofFloat? (-x) = some { b with negative := !b.negative } := by
  obtain ⟨v, hparts⟩ : ∃ v, Holds x.toModel.unpack v := ⟨_, holds_of_ofFloat? hx⟩
  have hneg : (-x).toModel.unpack = unpack binary64 (pack binary64 x.toModel.unpack.neg) := rfl
  rw [Binary.ofFloat?_eq] at hx ⊢
  rw [hneg, hparts.neg.unpack_pack]
  generalize x.toModel.unpack = p at hx hparts
  cases hparts with
  | zero s =>
    cases hx
    cases s <;> rfl
  | finite s hm hcanonical he =>
    cases hx
    cases s <;> rfl

theorem isNegative_of_ofFloat? (hx : Binary.ofFloat? x = some b) : isNegative x = b.negative := by
  rw [isNegative]
  unfold Binary.ofFloat? at hx
  simp only at hx
  split at hx
  case isTrue => cases hx
  case isFalse =>
    split at hx
    case isTrue =>
      cases hx
      rfl
    case isFalse =>
      cases hx
      rfl

/-- The magnitude of one double with the sign of another. -/
theorem ofFloat?_withSignOf (hx : Binary.ofFloat? x = some b) (hy : Binary.ofFloat? y = some c) :
    Binary.ofFloat? (withSignOf y x) = some { c with negative := b.negative } := by
  rw [withSignOf, isNegative_of_ofFloat? hx]
  cases hnegative : b.negative with
  | true => exact ofFloat?_neg (ofFloat?_abs hy)
  | false => exact ofFloat?_abs hy

/-- The floor of a double is a double. -/
theorem exists_ofInt_floor (hz : Binary.ofFloat? y = some z) (hpos : 0 ≤ z.value) :
    ∃ w, Binary.ofFloat? (Float.ofInt z.floor) = some w ∧ w.value = ⌊z.value⌋ := by
  obtain ⟨hcanonical, hmost⟩ := canonical_of_ofFloat? hz
  obtain ⟨a, ha⟩ := Int.eq_ofNat_of_zero_le (Int.floor_nonneg.mpr hpos)
  have hrounded : IsRounded a (Float.ofInt z.floor) := by
    rw [Binary.floor_eq, ha]
    exact isRounded_ofNat a
  rw [ha, Int.cast_natCast]
  obtain ⟨y', w, hw, hvalue⟩ : ∃ y w, Binary.ofFloat? y = some w ∧ w.value = a := by
    rcases le_or_gt 0 z.exponent with hwhole | hfraction
    · obtain ⟨N, hN⟩ := exists_units z.significand hwhole
      rw [← abs_value, abs_of_nonneg hpos, zpow_zero, mul_one] at hN
      rw [hN, Int.floor_intCast] at ha
      exact ⟨y, z, hz, by rw [hN, ha, Int.cast_natCast]⟩
    · have hlt := hcanonical.lt_units (t := 0) hfraction.le
      rw [← abs_value, abs_of_nonneg hpos, zpow_zero, mul_one] at hlt
      have hle := Int.floor_le z.value
      rw [ha, Int.cast_natCast] at hle
      have hfits : (a : ℚ) < 2 ^ 53 := hle.trans_lt hlt
      exact exists_ofNat_le (Nat.le_of_lt (by exact_mod_cast hfits))
  rw [← hvalue] at hrounded ⊢
  exact hrounded.exact hw

theorem exists_one : ∃ d, Binary.ofFloat? 1.0 = some d ∧ d.value = 1 :=
  ⟨⟨false, 2 ^ 52, -52⟩, by decide +kernel, by norm_num [Binary.value, Binary.signed]⟩

theorem add_half_lt_tooLarge (hx : Binary.ofFloat? x = some b) : |b.value| + 1 / 2 < tooLarge := by
  obtain ⟨hcanonical, hmost⟩ := canonical_of_ofFloat? hx
  have hsize : |b.value| ≤ (2 ^ 53 - 1) * 2 ^ (971 : ℤ) := by
    rw [abs_value]
    exact mul_le_mul hcanonical.le_greatest (zpow_le_zpow_right₀ one_le_two hmost)
      (two_zpow_pos _).le (by norm_num)
  have hunit : (1 : ℚ) < 2 ^ (971 : ℤ) := one_lt_zpow₀ one_lt_two (by decide)
  rw [tooLarge_eq]
  generalize (2 : ℚ) ^ (971 : ℤ) = unit at hsize hunit
  linarith

/-- Without places after the point, the factor is one. -/
theorem roundTo_of_zero (hy : Binary.ofFloat? y = some c) (hzero : c.value = 0) (x : Float) :
    Function.roundTo x y = (do
      let whole ← Function.wholeNumber Binary.floor (x.abs * 1.0 + 0.5)
      pure (withSignOf (whole / 1.0) x)) := by
  have hfloor : c.floor = 0 := by rw [Binary.floor_eq, hzero, Int.floor_zero]
  have hsignificand : c.significand = 0 := by
    by_contra hne
    have hpos : |c.value| ≠ 0 := by
      rw [abs_value]
      exact mul_ne_zero (Nat.cast_ne_zero.mpr hne) (two_zpow_pos _).ne'
    exact hpos (abs_eq_zero.mpr hzero)
  have hwhole : c.isWhole = true := by
    rw [Binary.isWhole, hsignificand, Nat.zero_mod]
    exact Bool.or_true _
  have hfactor : ofDecimal 1 0 = 1.0 := rfl
  rw [Function.roundTo, hy]
  simp only [hfloor, hwhole, hfactor]
  rfl

/-- The sum whose floor is taken is rounded once, where the half is added. -/
theorem exists_isNearest_sum (hx : Binary.ofFloat? x = some b) :
    ∃ z, Binary.ofFloat? (x.abs * 1.0 + 0.5) = some z ∧ IsNearest (|b.value| + 1 / 2) z := by
  obtain ⟨one, hone, honeValue⟩ := exists_one
  obtain ⟨half, hhalf, hhalfValue⟩ : ∃ d, Binary.ofFloat? 0.5 = some d ∧ d.value = 1 / 2 :=
    ⟨⟨false, 2 ^ 52, -53⟩, by decide +kernel, by norm_num [Binary.value, Binary.signed]⟩
  have habs := ofFloat?_abs hx
  have habsValue : (Binary.mk false b.significand b.exponent).value = |b.value| :=
    (value_mk .positive _ _).trans (abs_value b).symm
  have hproduct := isRounded_mul habs hone
  rw [honeValue, mul_one] at hproduct
  obtain ⟨product, hproduct, hproductValue⟩ := hproduct.exact habs
  have hsum := isRoundedToEven_add hproduct hhalf
  rw [hproductValue, habsValue, hhalfValue] at hsum
  exact IsNearest.of_isRoundedToEven hsum (by positivity) (add_half_lt_tooLarge hx)

/-- Rounding a finite number to an integer. -/
theorem roundTo_finite (hx : Binary.ofFloat? x = some b) (hy : Binary.ofFloat? y = some c)
    (hzero : c.value = 0) :
    ∃ r d n, Function.roundTo x y = .ok r ∧ Binary.ofFloat? r = some d ∧ d.value = (n : ℤ) ∧
      d.negative = b.negative ∧ IsRoundedOff b.value n := by
  obtain ⟨z, hz, hnearest⟩ := exists_isNearest_sum hx
  obtain ⟨w, hw, hwvalue⟩ := exists_ofInt_floor hz hnearest.nonneg
  obtain ⟨one, hone, honeValue⟩ := exists_one
  have hquotient := isRounded_div hw hone (by rw [honeValue]; exact one_ne_zero)
  rw [honeValue, div_one] at hquotient
  obtain ⟨u, hu, huvalue⟩ := hquotient.exact hw
  obtain ⟨n, hn⟩ : ∃ n : ℤ, (n : ℚ)
      = ofSign (if b.negative then .negative else .positive) ⌊z.value⌋ := by
    cases b.negative with
    | true => exact ⟨-⌊z.value⌋, Int.cast_neg _⟩
    | false => exact ⟨⌊z.value⌋, rfl⟩
  refine ⟨_, _, n, ?_, ofFloat?_withSignOf hx hu, ?_, rfl,
    (isSumFloor hx hnearest).isRoundedOff (value_of_abs b rfl) hn⟩
  · rw [roundTo_of_zero hy hzero, Function.wholeNumber, hz]
    rfl
  · have hsize : |(Binary.mk b.negative u.significand u.exponent).value| = (⌊z.value⌋ : ℤ) := by
      have hfloor : (0 : ℚ) ≤ (⌊z.value⌋ : ℤ) := by
        exact_mod_cast Int.floor_nonneg.mpr hnearest.nonneg
      rw [abs_value, ← abs_value u, huvalue, hwvalue, abs_of_nonneg hfloor]
    rw [hn]
    exact value_of_abs _ hsize

/-! ## Calls -/

namespace Expr

variable {limit : Int} {argument places : Expr}

/-- A call of the rounding function. -/
def roundCall (args : List Expr) : Expr :=
  .call (.name Function.round.name.toList) args []

/-- A call has the value that the function gives for the values of the arguments. -/
theorem eval_roundCall {args : List Expr} {xs : List Float} {r : Float}
    (hargs : evalAll limit args = .ok xs) (happly : Function.round.apply xs = .ok r)
    (hplain : ∀ e ∈ args, e.isStarred = false) : (roundCall args).eval limit = .ok r := by
  rw [roundCall, eval_call (f := .round) rfl hplain, hargs]
  simp only [bind, Except.bind, happly]
  rfl

/-- An integer is read as itself as long as every integer of its size is a double. -/
theorem eval_ofInt_value (limit : Int) (hk : |k| ≤ 2 ^ 53) :
    ∃ x b, ((Formula.ofInt k).toExpr Empty.elim).eval limit = .ok x ∧
      Binary.ofFloat? x = some b ∧ b.value = k := by
  rw [Int.abs_eq_natAbs] at hk
  obtain ⟨y, w, hw, hvalue⟩ := exists_ofNat_le (a := k.natAbs) (by omega)
  have hsmall : (k.natAbs : ℚ) < tooLarge := by
    rw [← hvalue]
    exact (le_abs_self _).trans_lt (holds_of_ofFloat? hw).abs_lt
  obtain ⟨x, heval, hrounded⟩ := (overflowRule limit).integer k.natAbs hsmall
  rw [← hvalue] at hrounded
  obtain ⟨b, hb, hbvalue⟩ := hrounded.exact hw
  rw [hvalue] at hbvalue
  rw [Formula.ofInt]
  split
  case isTrue hneg =>
    refine ⟨-x, _, eval_unary_ok.mpr ⟨x, heval, rfl⟩, ofFloat?_neg hb, ?_⟩
    rw [Binary.value_opposite, hbvalue, Nat.cast_natAbs, Int.cast_abs, abs_of_neg, neg_neg]
    exact_mod_cast hneg
  case isFalse hpos =>
    refine ⟨x, b, heval, hb, ?_⟩
    rw [hbvalue, Nat.cast_natAbs, Int.cast_abs, abs_of_nonneg]
    exact_mod_cast not_lt.mp hpos

/-- A call with a finite argument, with no places after the point. -/
theorem eval_roundCall_finite (ha : argument.eval limit = .ok x) (hx : Binary.ofFloat? x = some b)
    (hplaces : places.eval limit = .ok y) (hy : Binary.ofFloat? y = some c) (hzero : c.value = 0) :
    ∃ r d n, (roundCall [argument]).eval limit = .ok r ∧
      (roundCall [argument, places]).eval limit = .ok r ∧
      Binary.ofFloat? r = some d ∧ d.value = (n : ℤ) ∧ d.negative = b.negative ∧
      IsRoundedOff b.value n := by
  obtain ⟨r, d, n, hr, hd, hvalue, hsign, hrounded⟩ := roundTo_finite hx hy hzero
  have hone : evalAll limit [argument] = .ok [x] :=
    evalAll_cons_ok.mpr ⟨x, [], ha, evalAll_nil_ok.mpr rfl, rfl⟩
  have htwo : evalAll limit [argument, places] = .ok [x, y] :=
    evalAll_cons_ok.mpr ⟨x, [y], ha, evalAll_cons_ok.mpr
      ⟨y, [], hplaces, evalAll_nil_ok.mpr rfl, rfl⟩, rfl⟩
  -- Places that are left out are zero.
  have hleftOut : Function.roundTo x 0.0 = .ok r := by
    have hzeroValue : (Binary.mk false 0 (-1074)).value = 0 := by
      norm_num [Binary.value, Binary.signed]
    rw [← hr, roundTo_of_zero (by decide +kernel) hzeroValue, roundTo_of_zero hy hzero]
  exact ⟨r, d, n, eval_roundCall hone hleftOut (by simpa using isStarred_of_eval_ok ha),
    eval_roundCall htwo hr
      (by simpa using ⟨isStarred_of_eval_ok ha, isStarred_of_eval_ok hplaces⟩),
    hd, hvalue, hsign, hrounded⟩

/-- **Rounding to an integer is rounding half away from zero, except for the numbers that it
misses.** The number of places may be left out or have the value zero. Every finite number has an
integer for its value then, with the sign of the number: the right one (`IsHalfAway`), or, for a
number that is missed (`IsMissed`), the next one away from zero. An integer of a size up to `2 ^ 53`
is kept exactly if it is even or its size is at most `2 ^ 52`. -/
theorem eval_round (limit : Int) :
    (∀ (argument places : Expr) (x y : Float) (b c : Binary),
      argument.eval limit = .ok x → Binary.ofFloat? x = some b →
      places.eval limit = .ok y → Binary.ofFloat? y = some c → c.value = 0 →
      ∃ r d n, (roundCall [argument]).eval limit = .ok r ∧
        (roundCall [argument, places]).eval limit = .ok r ∧
        Binary.ofFloat? r = some d ∧ d.value = (n : ℤ) ∧ d.negative = b.negative ∧
        IsRoundedOff b.value n) ∧
    ∀ k : ℤ, |k| ≤ 2 ^ 53 →
      let integer : Expr := (Formula.ofInt k).toExpr Empty.elim
      ∃ r d n, (roundCall [integer]).eval limit = .ok r ∧
        (roundCall [integer, literal (.int 0)]).eval limit = .ok r ∧
        Binary.ofFloat? r = some d ∧ d.value = (n : ℤ) ∧
        (n = k ↔ |k| ≤ 2 ^ 52 ∨ k % 2 = 0) := by
  refine ⟨fun argument places x y b c => eval_roundCall_finite, fun k hk => ?_⟩
  obtain ⟨x, b, heval, hb, hvalue⟩ := eval_ofInt_value limit hk
  obtain ⟨y, c, hplaces, hc, hzero⟩ := eval_ofInt_value (k := 0) limit (by decide)
  obtain ⟨r, d, n, hone, htwo, hd, hdvalue, -, hrounded⟩ :=
    eval_roundCall_finite heval hb hplaces hc (hzero.trans Int.cast_zero)
  exact ⟨r, d, n, hone, htwo, hd, hdvalue, hrounded.eq_iff hvalue hk⟩

/-- A half is rounded away from zero, and a negative integer is kept. -/
theorem eval_round_half :
    (∃ r d, (roundCall [literal (.float 2.5)]).eval 1000 = .ok r ∧
      Binary.ofFloat? r = some d ∧ d.value = 3) ∧
    ∃ r d, (roundCall [unary .minus (literal (.int 7))]).eval 1000 = .ok r ∧
      Binary.ofFloat? r = some d ∧ d.value = -7 := by
  constructor
  · have hvalue : (Binary.mk false (5 * 2 ^ 50) (-51)).value = 5 / 2 := by
      norm_num [Binary.value, Binary.signed]
    obtain ⟨r, d, n, hr, -, hd, hdvalue, -, hrounded⟩ := (eval_round 1000).1
      (literal (.float 2.5)) (literal (.float 0.0)) 2.5 0.0 ⟨false, 5 * 2 ^ 50, -51⟩
      ⟨false, 0, -1074⟩ rfl (by decide +kernel) rfl (by decide +kernel)
      (by norm_num [Binary.value, Binary.signed])
    rw [hvalue] at hrounded
    have hkept : ¬IsMissed (5 / 2) := not_isMissed (by norm_num) (.inl (by norm_num))
    have hthree : IsHalfAway (5 / 2) 3 := ⟨by norm_num, by norm_num⟩
    refine ⟨r, d, hr, hd, ?_⟩
    rw [hdvalue, (hrounded.kept hkept).unique hthree]
    rfl
  · obtain ⟨r, d, n, hr, -, hd, hdvalue, hsame⟩ := (eval_round 1000).2 (-7) (by decide)
    refine ⟨r, d, hr, hd, ?_⟩
    rw [hdvalue, hsame.mpr (.inl (by decide))]
    norm_num

/-- An integer that takes up all places of a double becomes the next one, and the last double below
a half becomes one. -/
theorem evaluate_round_missed :
    let limits : Limits := { maxLength := 1000, maxExponent := 1000 }
    (evaluate limits "round(4503599627370497)".toList).mapError Rejection.name
        = .ok 4503599627370498.0 ∧
    (evaluate limits "round(0.49999999999999994)".toList).mapError Rejection.name = .ok 1.0 := by
  decide +kernel

end Expr

end Formulary
