/-
Formulary.Proofs.Rounding — a positive number is rounded to a double.

The arithmetic of doubles computes an exact mantissa with an exponent, notes how far the exact
number is above it, and rounds. Here this is followed on rational numbers. A mantissa with an
accuracy stands for a number in units of its last place (`Approximates`); moving the mantissa to the
right keeps that, and rounding it gives a nearest integer, and the even one of two.

A mantissa and an exponent are those of a double if the mantissa fits and the exponent is as small
as it can be (`Canonical`). Rounding gives such a pair, and none is nearer to the exact number; if
another is as near, the mantissa is even (`Rounded`). The exponent of the pair is not bounded: it is
past that of the greatest double exactly for the numbers that are at least halfway from there to the
next power of two. Packing turns those into an infinity, and keeps all others as they are.
-/
import Mathlib

namespace Formulary.Rounding

open Float.Model (UnpackedFloat totalExponent)
open Float.Model.Format (binary64)
open Float.Model.UnpackedFloat

/-! ## Mantissas and what is behind them -/

/-- The number is the mantissa, or a little more, as the accuracy says. -/
def Approximates (m : ℕ) (u : ℚ) : Accuracy → Prop
  | .exact => u = m
  | .inexact .lt => m < u ∧ u < m + 1 / 2
  | .inexact .eq => u = m + 1 / 2
  | .inexact .gt => m + 1 / 2 < u ∧ u < m + 1

variable {m M n : ℕ} {e k t : ℤ} {u v : ℚ} {accuracy : Accuracy} {s : Sign}

namespace Approximates

theorem bounds (h : Approximates m u accuracy) : m ≤ u ∧ u < m + 1 := by
  cases accuracy with
  | exact =>
    rw [Approximates] at h
    constructor <;> linarith
  | inexact order =>
    cases order <;> rw [Approximates] at h <;> constructor <;> linarith

/-- Moving a mantissa to the right by one place halves the number. -/
theorem shiftRightOne {em : ExtendedMantissa} (h : Approximates em.mantissa u em.accuracy) :
    Approximates em.shiftRightOne.mantissa (u / 2) em.shiftRightOne.accuracy := by
  obtain ⟨m, roundBit, stickyBit⟩ := em
  have hparity : (m : ℚ) = 2 * (m / 2 : ℕ) + (m % 2 : ℕ) := by
    exact_mod_cast (Nat.div_add_mod m 2).symm
  rcases Nat.mod_two_eq_zero_or_one m with hm | hm <;> rw [hm] at hparity <;>
    cases roundBit <;> cases stickyBit <;>
    simp [Approximates, ExtendedMantissa.accuracy, ExtendedMantissa.shiftRightOne, hm] at h ⊢ <;>
    first | constructor <;> linarith | linarith

theorem shiftRight {em : ExtendedMantissa} (h : Approximates em.mantissa u em.accuracy) (n : ℕ) :
    Approximates (em >>> n).mantissa (u / 2 ^ n) (em >>> n).accuracy := by
  change Approximates (n.repeat ExtendedMantissa.shiftRightOne em).mantissa _
    (n.repeat ExtendedMantissa.shiftRightOne em).accuracy
  induction n with
  | zero => simpa [Nat.repeat] using h
  | succ n ih =>
    rw [pow_succ, ← div_div]
    exact ih.shiftRightOne

/-- Rounding a mantissa gives a nearest integer. -/
theorem abs_sub_le (h : Approximates m u accuracy) :
    |u - accuracy.roundToNearestEven m| ≤ 1 / 2 := by
  rw [abs_le]
  cases accuracy with
  | exact =>
    rw [Approximates] at h
    rw [Accuracy.roundToNearestEven]
    constructor <;> linarith
  | inexact order =>
    cases order with
    | lt | gt =>
      rw [Approximates] at h
      simp only [Accuracy.roundToNearestEven, Nat.cast_add, Nat.cast_one]
      constructor <;> linarith
    | eq =>
      rw [Approximates] at h
      rw [Accuracy.roundToNearestEven]
      rcases Nat.mod_two_eq_zero_or_one m with hm | hm <;> rw [hm] <;> push_cast <;>
        constructor <;> linarith

/-- What is halfway to an even number is rounded to it. -/
theorem le_round (h : Approximates m u accuracy) {N : ℕ} (hN : N % 2 = 0) (hu : N - 1 / 2 ≤ u) :
    N ≤ accuracy.roundToNearestEven m := by
  by_contra hlt
  have hM : accuracy.roundToNearestEven m + 1 ≤ N := Nat.lt_of_not_le hlt
  have hMQ : ((accuracy.roundToNearestEven m : ℕ) : ℚ) + 1 ≤ N := by exact_mod_cast hM
  cases accuracy with
  | exact =>
    rw [Approximates] at h
    rw [Accuracy.roundToNearestEven] at hMQ
    linarith
  | inexact order =>
    cases order with
    | lt | gt =>
      rw [Approximates] at h
      simp only [Accuracy.roundToNearestEven, Nat.cast_add, Nat.cast_one] at hMQ
      linarith
    | eq =>
      rw [Approximates] at h
      rw [Accuracy.roundToNearestEven] at hM hMQ
      -- The two mantissas around the half differ by one, so the even one is the greater.
      have hm : (N : ℚ) ≤ m + 1 := by linarith
      have hmN : N ≤ m + 1 := by exact_mod_cast hm
      omega

/-- Halfway between two integers, rounding gives the even one. -/
theorem even_round (h : Approximates m u accuracy)
    (htie : |u - accuracy.roundToNearestEven m| = 1 / 2) :
    accuracy.roundToNearestEven m % 2 = 0 := by
  cases accuracy with
  | exact =>
    rw [Approximates] at h
    rw [Accuracy.roundToNearestEven, h, sub_self, abs_zero] at htie
    norm_num at htie
  | inexact order =>
    cases order with
    | lt =>
      rw [Approximates] at h
      rw [Accuracy.roundToNearestEven, abs_of_pos (by linarith)] at htie
      linarith
    | eq =>
      rw [Accuracy.roundToNearestEven]
      omega
    | gt =>
      rw [Approximates] at h
      rw [Accuracy.roundToNearestEven, Nat.cast_add, Nat.cast_one, abs_of_neg (by linarith)] at htie
      linarith

end Approximates

/-! ## Mantissas and exponents of doubles -/

/-- The mantissa fits, and the exponent is as small as it can be. -/
structure Canonical (m : ℕ) (e : ℤ) : Prop where
  lt : m < 2 ^ 53
  le_exponent : -1074 ≤ e
  least : e = -1074 ∨ 2 ^ 52 ≤ m

theorem Canonical.le_greatest (h : Canonical m e) : (m : ℚ) ≤ 2 ^ 53 - 1 := by
  rw [le_sub_iff_add_le]
  exact_mod_cast h.lt

/-- A mantissa is below the next power of two. -/
theorem Canonical.lt_units (h : Canonical m e) (het : e ≤ t) : (m : ℚ) * 2 ^ e < 2 ^ 53 * 2 ^ t :=
  calc (m : ℚ) * 2 ^ e < 2 ^ 53 * 2 ^ e :=
        mul_lt_mul_of_pos_right (by exact_mod_cast h.lt) (zpow_pos two_pos e)
    _ ≤ 2 ^ 53 * 2 ^ t :=
        mul_le_mul_of_nonneg_left (zpow_le_zpow_right₀ one_le_two het) (by positivity)

/-- A mantissa has a leading one, unless its exponent is the least. -/
theorem Canonical.units_le (h : Canonical m e) (hleast : -1074 < t) (hte : t ≤ e) :
    2 ^ 52 * 2 ^ t ≤ (m : ℚ) * 2 ^ e :=
  calc (2 : ℚ) ^ 52 * 2 ^ t ≤ 2 ^ 52 * 2 ^ e :=
        mul_le_mul_of_nonneg_left (zpow_le_zpow_right₀ one_le_two hte) (by positivity)
    _ ≤ m * 2 ^ e :=
        mul_le_mul_of_nonneg_right (by exact_mod_cast h.least.resolve_left (by omega))
          (zpow_pos two_pos e).le

/-- Halfway from the greatest double to the next power of two: numbers from there on are too large
for a double. -/
def tooLarge : ℚ :=
  2 ^ 1024 - 2 ^ 970

/-- The mantissa and the exponent are a nearest canonical pair to the number, and the even one of
two. -/
structure Rounded (v : ℚ) (m : ℕ) (e : ℤ) : Prop where
  canonical : Canonical m e
  nearest : ∀ n k, Canonical n k → |v - m * 2 ^ e| ≤ |v - n * 2 ^ k|
  even : ∀ n k, Canonical n k → |v - n * 2 ^ k| = |v - m * 2 ^ e| →
    (n : ℚ) * 2 ^ k = m * 2 ^ e ∨ m % 2 = 0
  tooLarge_iff : tooLarge ≤ v ↔ 972 ≤ e

/-- The exponent that rounding aims at. -/
def target (m : ℕ) (e : ℤ) : ℤ :=
  binary64.targetExponent (totalExponent m e)

theorem target_eq (m : ℕ) (e : ℤ) : target m e = max (m.log2 + 1 + e - 53) (-1074) :=
  rfl

theorem two_zpow_pos (e : ℤ) : (0 : ℚ) < 2 ^ e :=
  zpow_pos two_pos e

theorem tooLarge_eq : tooLarge = (2 ^ 53 - 1 / 2) * 2 ^ (971 : ℤ) := by
  have hlarge : (2 : ℚ) ^ 1024 = 2 ^ 54 * 2 ^ 970 := by rw [← pow_add]
  have hexponent : (2 : ℚ) ^ (971 : ℤ) = 2 * 2 ^ 970 := by rw [zpow_ofNat, ← pow_succ']
  rw [tooLarge, hlarge, hexponent]
  generalize (2 : ℚ) ^ 970 = x
  ring

theorem tooLarge_pos : 0 < tooLarge := by
  rw [tooLarge_eq]
  exact mul_pos (by norm_num) (two_zpow_pos 971)

/-- A number below this many units of this exponent is not too large if these are not. -/
theorem lt_tooLarge {c : ℚ} (hu : u < c) (hc : 0 ≤ c) (ht : t ≤ k) (h : c * 2 ^ k ≤ tooLarge) :
    u * 2 ^ t < tooLarge :=
  calc u * 2 ^ t < c * 2 ^ t := mul_lt_mul_of_pos_right hu (two_zpow_pos t)
    _ ≤ c * 2 ^ k := mul_le_mul_of_nonneg_left (zpow_le_zpow_right₀ one_le_two ht) hc
    _ ≤ tooLarge := h

/-- A number of at least this many units of this exponent is too large if these are. -/
theorem tooLarge_le {c : ℚ} (hu : c ≤ u) (hc : 0 ≤ c) (ht : k ≤ t) (h : tooLarge ≤ c * 2 ^ k) :
    tooLarge ≤ u * 2 ^ t :=
  calc tooLarge ≤ c * 2 ^ k := h
    _ ≤ c * 2 ^ t := mul_le_mul_of_nonneg_left (zpow_le_zpow_right₀ one_le_two ht) hc
    _ ≤ u * 2 ^ t := mul_le_mul_of_nonneg_right hu (two_zpow_pos t).le

/-- Two integers are not both within less than a half. -/
theorem one_le_abs_add {N : ℤ} (hN : (M : ℤ) ≠ N) : 1 ≤ |u - M| + |u - N| := by
  have hone : (1 : ℚ) ≤ |(M : ℚ) - N| := by
    have : (1 : ℤ) ≤ |(M : ℤ) - N| := Int.one_le_abs (sub_ne_zero.mpr hN)
    exact_mod_cast this
  rw [abs_sub_comm u M]
  exact hone.trans (abs_sub_le (M : ℚ) u N)

/-- An integer within a half is a nearest one. -/
theorem abs_sub_le_of_half (h : |u - M| ≤ 1 / 2) (N : ℤ) : |u - M| ≤ |u - N| := by
  by_cases hN : (M : ℤ) = N
  · rw [← hN, Int.cast_natCast]
  · have hapart := one_le_abs_add (u := u) hN
    linarith

/-- A double is an integer in units of an exponent that is not above its own. -/
theorem exists_units (n : ℕ) (htk : t ≤ k) : ∃ N : ℤ, (n : ℚ) * 2 ^ k = N * 2 ^ t := by
  refine ⟨n * 2 ^ (k - t).toNat, ?_⟩
  have hk : k = ((k - t).toNat : ℤ) + t := by omega
  rw [hk, zpow_add₀ two_ne_zero, zpow_natCast]
  push_cast
  have hnat : (((k - t).toNat : ℤ) + t - t).toNat = (k - t).toNat := by omega
  rw [hnat, mul_assoc]

/-- A double with a smaller exponent is at most the least mantissa of this one. -/
theorem le_least_units (hcanonical : Canonical n k) (hkt : k < t) :
    (n : ℚ) * 2 ^ k ≤ 2 ^ 52 * 2 ^ t :=
  calc (n : ℚ) * 2 ^ k ≤ 2 ^ 53 * 2 ^ (t - 1) := (hcanonical.lt_units (by omega)).le
    _ = 2 ^ 52 * 2 ^ t := by rw [zpow_sub_one₀ two_ne_zero]; ring

/-- The least mantissa is no nearer than a nearest integer. -/
theorem abs_sub_le_least (h : |u - M| ≤ 1 / 2) (hu : 2 ^ 52 ≤ u) : |u - M| ≤ u - 2 ^ 52 := by
  have hleast : |u - M| ≤ |u - ((2 ^ 52 : ℤ) : ℚ)| := abs_sub_le_of_half h _
  have hsame : |u - ((2 ^ 52 : ℤ) : ℚ)| = u - 2 ^ 52 := by
    push_cast
    exact abs_of_nonneg (by linarith)
  rwa [hsame] at hleast

theorem abs_units (u v : ℚ) (t : ℤ) : |u * 2 ^ t - v * 2 ^ t| = |u - v| * 2 ^ t := by
  rw [← sub_mul, abs_mul, abs_of_pos (two_zpow_pos t)]

/-- A nearest integer in units of the exponent is nearest to all doubles: those with a smaller
exponent are below the least mantissa of this one. -/
theorem nearest_of_half (h : |u - M| ≤ 1 / 2) (ht : t = -1074 ∨ 2 ^ 52 ≤ u)
    (hcanonical : Canonical n k) : |u * 2 ^ t - M * 2 ^ t| ≤ |u * 2 ^ t - n * 2 ^ k| := by
  have hpos := two_zpow_pos t
  rcases le_or_gt t k with htk | hkt
  · obtain ⟨N, hN⟩ := exists_units n htk
    rw [hN, abs_units, abs_units]
    exact mul_le_mul_of_nonneg_right (abs_sub_le_of_half h N) hpos.le
  · have hu : (2 : ℚ) ^ 52 ≤ u := ht.resolve_left (by have := hcanonical.le_exponent; omega)
    calc |u * 2 ^ t - M * 2 ^ t| = |u - M| * 2 ^ t := abs_units u M t
      _ ≤ (u - 2 ^ 52) * 2 ^ t := mul_le_mul_of_nonneg_right (abs_sub_le_least h hu) hpos.le
      _ ≤ u * 2 ^ t - n * 2 ^ k := by linarith [le_least_units hcanonical hkt]
      _ ≤ |u * 2 ^ t - n * 2 ^ k| := le_abs_self _

/-- Another double that is as near as a nearest integer in units of the exponent is an integer in
these units too, so that the number is halfway between the two. -/
theorem even_of_half (h : |u - M| ≤ 1 / 2) (heven : |u - M| = 1 / 2 → M % 2 = 0)
    (ht : t = -1074 ∨ 2 ^ 52 ≤ u) (hcanonical : Canonical n k)
    (hsame : |u * 2 ^ t - n * 2 ^ k| = |u * 2 ^ t - M * 2 ^ t|) :
    (n : ℚ) * 2 ^ k = M * 2 ^ t ∨ M % 2 = 0 := by
  have hpos := two_zpow_pos t
  obtain ⟨N, hN⟩ : ∃ N : ℤ, (n : ℚ) * 2 ^ k = N * 2 ^ t := by
    rcases le_or_gt t k with htk | hkt
    · exact exists_units n htk
    · -- It is at most the least mantissa, which is no nearer than a nearest integer.
      have hu : (2 : ℚ) ^ 52 ≤ u := ht.resolve_left (by have := hcanonical.le_exponent; omega)
      have hbelow := le_least_units hcanonical hkt
      have hleast := mul_le_mul_of_nonneg_right (abs_sub_le_least h hu) hpos.le
      have hupper := le_abs_self (u * 2 ^ t - n * 2 ^ k)
      rw [hsame, abs_units] at hupper
      refine ⟨2 ^ 52, ?_⟩
      push_cast
      linarith
  rw [hN, abs_units, abs_units] at hsame
  have hequal : |u - N| = |u - M| := mul_right_cancel₀ hpos.ne' hsame
  rw [hN]
  by_cases hMN : (M : ℤ) = N
  · rw [← hMN, Int.cast_natCast]
    exact .inl rfl
  · have hapart := one_le_abs_add (u := u) hMN
    exact .inr (heven (by linarith))

/-- Rounding in units of the exponent that it aims at. The mantissa may come out as the next power
of two, and then the exponent is one more. -/
theorem rounded_of_half (h : |u - M| ≤ 1 / 2) (heven : |u - M| = 1 / 2 → M % 2 = 0)
    (hlt : u < 2 ^ 53)
    (htie : 2 ^ 53 - 1 / 2 ≤ u → 2 ^ 53 ≤ M) (hleast : -1074 ≤ t) (ht : t = -1074 ∨ 2 ^ 52 ≤ u) :
    Rounded (u * 2 ^ t) (M / 2 ^ (target M t - t).toNat) (t + (target M t - t).toNat) := by
  have hpos := two_zpow_pos t
  obtain ⟨hlow, hhigh⟩ := abs_le.mp h
  have hM : M ≤ 2 ^ 53 := by
    have hlt' : (M : ℚ) < 2 ^ 53 + 1 := by linarith
    have hlt'' : M < 2 ^ 53 + 1 := by exact_mod_cast hlt'
    omega
  rcases hM.lt_or_eq with hM | rfl
  · have hlog : M.log2 ≤ 52 := by
      rcases Nat.eq_zero_or_pos M with rfl | hM0
      · simp
      · exact Nat.lt_succ_iff.mp ((Nat.log2_lt hM0.ne').mpr hM)
    have hshift : (target M t - t).toNat = 0 := by
      rw [target_eq]
      omega
    have hu : u < 2 ^ 53 - 1 / 2 := lt_of_not_ge fun hu => absurd (htie hu) hM.not_ge
    rw [hshift, pow_zero, Nat.div_one, Nat.cast_zero, add_zero]
    refine ⟨⟨hM, hleast, ht.imp_right fun hu => ?_⟩, fun n k => nearest_of_half h ht,
      fun n k => even_of_half h heven ht, ?_⟩
    · have hlt' : (2 : ℚ) ^ 52 < M + 1 := by linarith
      exact Nat.lt_succ_iff.mp (by exact_mod_cast hlt')
    · constructor
      · intro hlarge
        by_contra ht'
        exact absurd hlarge
          (lt_tooLarge hu (by norm_num) (by omega) tooLarge_eq.ge).not_ge
      · intro ht'
        have hu52 : (2 : ℚ) ^ 52 ≤ u := ht.resolve_left (by omega)
        refine tooLarge_le hu52 (by positivity) ht' ?_
        have hnext : (2 : ℚ) ^ (972 : ℤ) = 2 ^ (971 : ℤ) * 2 := zpow_add_one₀ two_ne_zero 971
        have hunit := two_zpow_pos 971
        rw [tooLarge_eq, hnext]
        generalize (2 : ℚ) ^ (971 : ℤ) = x at hunit
        linarith
  · have hlog : (2 ^ 53 : ℕ).log2 = 53 := Nat.log2_two_pow
    have hshift : (target (2 ^ 53) t - t).toNat = 1 := by
      rw [target_eq, hlog]
      omega
    have hhalf : (2 ^ 53 / 2 ^ 1 : ℕ) = 2 ^ 52 := by norm_num
    have hsame : ((2 ^ 52 : ℕ) : ℚ) * 2 ^ (t + 1) = (2 ^ 53 : ℕ) * 2 ^ t := by
      rw [zpow_add_one₀ two_ne_zero]
      push_cast
      ring
    rw [hshift, hhalf, Nat.cast_one]
    refine ⟨⟨by norm_num, by omega, .inr le_rfl⟩, fun n k hcanonical => ?_,
      fun n k _ _ => .inr (by norm_num), ?_⟩
    · rw [hsame]
      exact nearest_of_half h ht hcanonical
    · push_cast at hlow
      constructor
      · intro hlarge
        by_contra ht'
        refine absurd hlarge (lt_tooLarge hlt (by positivity) (show t ≤ 970 by omega) ?_).not_ge
        have hnext : (2 : ℚ) ^ (971 : ℤ) = 2 ^ (970 : ℤ) * 2 := zpow_add_one₀ two_ne_zero 970
        have hunit := two_zpow_pos 970
        rw [tooLarge_eq, hnext]
        generalize (2 : ℚ) ^ (970 : ℤ) = x at hunit
        linarith
      · intro ht'
        exact tooLarge_le (c := 2 ^ 53 - 1 / 2) (by linarith) (by norm_num)
          (show (971 : ℤ) ≤ t by omega) tooLarge_eq.le

/-! ## Rounding -/

/-- The number with these parts. -/
def assemble (s : Sign) (m : ℕ) (e : ℤ) : UnpackedFloat :=
  if h : m = 0 then .zero s else .finite s m e (Nat.pos_of_ne_zero h)

theorem mantissa_shiftRight (em : ExtendedMantissa) (n : ℕ) :
    (em >>> n).mantissa = em.mantissa / 2 ^ n := by
  change (n.repeat ExtendedMantissa.shiftRightOne em).mantissa = _
  induction n with
  | zero => simp [Nat.repeat]
  | succ n ih =>
    rw [Nat.repeat, ExtendedMantissa.shiftRightOne, ih, Nat.div_div_eq_div_mul, pow_succ]

theorem approximates_ofMantissaAndAccuracy (h : Approximates m u accuracy) :
    Approximates (ExtendedMantissa.ofMantissaAndAccuracy m accuracy).mantissa u
      (ExtendedMantissa.ofMantissaAndAccuracy m accuracy).accuracy := by
  cases accuracy with
  | exact => exact h
  | inexact order => cases order <;> exact h

theorem mantissa_ofMantissaAndAccuracy (m : ℕ) (accuracy : Accuracy) :
    (ExtendedMantissa.ofMantissaAndAccuracy m accuracy).mantissa = m := by
  cases accuracy with
  | exact => rfl
  | inexact order => cases order <;> rfl

/-- **Rounding gives a nearest pair, the even one of two**, as long as the exponent is not above the
one that rounding aims at. -/
theorem roundWithAccuracy_eq (s : Sign) (h : Approximates m u accuracy) (he : e ≤ target m e) :
    ∃ M k, Rounded (u * 2 ^ e) M k ∧
      roundWithAccuracy binary64 s m e accuracy = assemble s M k := by
  let em := ExtendedMantissa.ofMantissaAndAccuracy m accuracy
  let shift := (target m e - e).toNat
  let M := (em >>> shift).roundedMantissa
  have hshift : e + (shift : ℤ) = target m e := by omega
  have hmoved := (approximates_ofMantissaAndAccuracy h).shiftRight shift
  have hvalue : u / 2 ^ shift * 2 ^ target m e = u * 2 ^ e := by
    rw [← hshift, zpow_add₀ two_ne_zero, zpow_natCast, mul_comm (2 ^ e) _, ← mul_assoc,
      div_mul_cancel₀ u (pow_ne_zero shift two_ne_zero)]
  have htarget := target_eq m e
  have hlt : u / 2 ^ shift < 2 ^ 53 := by
    have hm : (m : ℚ) + 1 ≤ 2 ^ (m.log2 + 1) := by exact_mod_cast Nat.lt_log2_self
    rw [div_lt_iff₀ (by positivity), ← pow_add]
    calc u < m + 1 := h.bounds.2
      _ ≤ 2 ^ (m.log2 + 1) := hm
      _ ≤ 2 ^ (53 + shift) := pow_le_pow_right₀ one_le_two (by omega)
  have hnormal : target m e = -1074 ∨ 2 ^ 52 ≤ u / 2 ^ shift := by
    by_cases hleast : target m e = -1074
    · exact .inl hleast
    · have hlog : m.log2 = 52 + shift := by omega
      have hm0 : m ≠ 0 := by
        rintro rfl
        rw [Nat.log2_zero] at hlog
        omega
      have hm : (2 : ℚ) ^ (52 + shift) ≤ m := by
        rw [← hlog]
        exact_mod_cast Nat.log2_self_le hm0
      refine .inr ?_
      rw [le_div_iff₀ (by positivity), ← pow_add]
      exact hm.trans h.bounds.1
  refine ⟨M / 2 ^ (target M (target m e) - target m e).toNat,
    target m e + (target M (target m e) - target m e).toNat, ?_, ?_⟩
  · rw [← hvalue]
    exact rounded_of_half hmoved.abs_sub_le hmoved.even_round hlt (fun htie =>
      hmoved.le_round (by norm_num) (by exact_mod_cast htie)) (by omega) hnormal
  · rw [roundWithAccuracy]
    simp only [shiftToTargetExponent, shiftToExponent, mantissa_shiftRight,
      mantissa_ofMantissaAndAccuracy]
    change assemble s (M / 2 ^ (target M (e + shift) - (e + shift)).toNat)
      (e + shift + (target M (e + shift) - (e + shift)).toNat) = _
    rw [hshift]

/-! ## Packing -/

theorem unpack_packedInfinity (s : Sign) :
    unpack binary64 (packedInfinity binary64 s) = .infinity s := by
  cases s <;> rfl

theorem finite_congr {m' : ℕ} {e' : ℤ} {h : 0 < m} {h' : 0 < m'} (hm : m = m') (he : e = e') :
    UnpackedFloat.finite s m e h = .finite s m' e' h' := by
  subst hm he
  rfl

/-- A stored exponent between the least and the greatest stands for a number with a leading one. -/
theorem unpack_normal (s : Sign) {stored : ℕ} (hpos : 0 < stored) (hstored : stored < 2047)
    (hm : 2 ^ 52 ≤ m) (hlt : m < 2 ^ 53) (hm0 : 0 < m) :
    unpack binary64 (packComponents binary64 s (BitVec.ofNat 11 stored) (BitVec.ofNat 52 m))
      = .finite s m (stored - 1075) hm0 := by
  have hstoredNat : (BitVec.ofNat 11 stored).toNat = stored := by
    rw [BitVec.toNat_ofNat]
    omega
  have hones : BitVec.ofNat 11 stored ≠ -1#11 := by
    rw [Ne, ← BitVec.toNat_inj, hstoredNat]
    exact hstored.ne
  have hzero : BitVec.ofNat 11 stored ≠ 0#11 := by
    rw [Ne, ← BitVec.toNat_inj, hstoredNat]
    exact hpos.ne'
  have hleading : (1#1 ++ BitVec.ofNat 52 m).toNat = m := by
    rw [BitVec.toNat_append, BitVec.toNat_ofNat, ← Nat.shiftLeft_add_eq_or_of_lt (by omega)]
    change 2 ^ 52 + m % 2 ^ 52 = m
    omega
  rw [unpack]
  simp only [unpackMantissa_packComponents, unpackExponent_packComponents,
    unpackSign_packComponents, Sign.ofBitVec_toBitVec]
  rw [if_neg hones, if_neg hzero]
  exact finite_congr hleading (by rw [hstoredNat]; rfl)

/-- The least stored exponent stands for a number without a leading one. -/
theorem unpack_subnormal (s : Sign) (hlt : m < 2 ^ 52) (hm0 : 0 < m) :
    unpack binary64 (packComponents binary64 s 0#11 (BitVec.ofNat 52 m))
      = .finite s m (-1074) hm0 := by
  have hmNat : (BitVec.ofNat 52 m).toNat = m := by
    rw [BitVec.toNat_ofNat]
    omega
  have hzero : BitVec.ofNat 52 m ≠ 0#52 := by
    rw [Ne, ← BitVec.toNat_inj, hmNat]
    exact hm0.ne'
  rw [unpack]
  simp only [unpackMantissa_packComponents, unpackExponent_packComponents,
    unpackSign_packComponents, Sign.ofBitVec_toBitVec]
  rw [if_neg (by decide), if_pos trivial, dif_neg hzero]
  exact finite_congr hmNat rfl

/-- Packing keeps the parts of a double, and makes an infinity of those past the greatest one. -/
theorem unpack_pack_assemble (s : Sign) (h : Canonical m e) :
    unpack binary64 (pack binary64 (assemble s m e))
      = if 972 ≤ e then .infinity s else assemble s m e := by
  obtain ⟨hlt, hleast, hnormal⟩ := h
  by_cases hm : m = 0
  · have he : e = -1074 := hnormal.resolve_right (by omega)
    rw [assemble, dif_pos hm, he]
    exact unpack_packedZero
  · rw [assemble, dif_neg hm, pack]
    have hbias : e + binary64.exponentBias + binary64.mantissaBitsWithoutImplicit = e + 1075 := by
      rw [add_assoc]
      rfl
    simp only [hbias]
    by_cases he : 972 ≤ e
    · rw [if_pos (show 2 ^ 11 ≤ (e + 1075).toNat + 1 by omega), if_pos he]
      exact unpack_packedInfinity s
    · rw [if_neg (show ¬2 ^ 11 ≤ (e + 1075).toNat + 1 by omega), if_neg he]
      by_cases hlog : 2 ^ 52 ≤ m
      · have hlog' : m.log2 + 1 = binary64.mantissaBits :=
          congrArg (· + 1) ((Nat.log2_eq_iff hm).mpr ⟨hlog, hlt⟩)
        rw [if_pos hlog']
        refine (unpack_normal s (by omega) (by omega) hlog hlt (Nat.pos_of_ne_zero hm)).trans ?_
        exact finite_congr rfl (by omega)
      · have hlog' : m.log2 + 1 ≠ binary64.mantissaBits :=
          Nat.ne_of_lt (Nat.succ_lt_succ ((Nat.log2_lt hm).mpr (Nat.lt_of_not_le hlog)))
        rw [if_neg hlog']
        refine (unpack_subnormal s (Nat.lt_of_not_le hlog) (Nat.pos_of_ne_zero hm)).trans ?_
        exact finite_congr rfl (hnormal.resolve_right hlog).symm

end Formulary.Rounding
