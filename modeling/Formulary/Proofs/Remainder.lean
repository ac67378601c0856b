/-
Formulary.Proofs.Remainder — the cut remainder is exact.

The remainder of the division that is cut towards zero is computed on integers and put together to a
double again. Putting together loses nothing: a significand of at most 53 bits with an exponent of
a double is moved up until it is one that packing would give (`holds_toFloat`), and the remainder is
such a value, for it is below the significand with the smaller exponent. So what `cutRemainder`
gives is the remainder itself: nearer to zero than the divisor and no farther from it than the
dividend, on the dividend's side.
-/
import Formulary.Number.Arithmetic
import Formulary.Proofs.Nearest

namespace Formulary

open Float.Model (UnpackedFloat)
open Float.Model.Format (binary64)
open Float.Model.UnpackedFloat (Sign unpack pack packComponents)
open Rounding

-- Powers are those of the core library, as in the definitions that these laws are about.
attribute [local instance (high)] instPowNat

variable {s : Sign} {m : ℕ} {e : ℤ} {b c : Binary}

/-! ## Putting together -/

/-- The sign bit in its place. -/
def signBits : Sign → ℕ
  | .negative => 2 ^ (63 : ℕ)
  | .positive => 0

theorem toNat_packComponents (s : Sign) (stored : BitVec 11) (fraction : BitVec 52) :
    (packComponents binary64 s stored fraction).toNat
      = stored.toNat * 2 ^ (52 : ℕ) + fraction.toNat + signBits s := by
  have hsplit : packComponents binary64 s stored fraction
      = (s.toBitVec ++ stored) ++ fraction := rfl
  rw [hsplit, BitVec.toNat_append, BitVec.toNat_append, ← Nat.shiftLeft_add_eq_or_of_lt stored.isLt,
    ← Nat.shiftLeft_add_eq_or_of_lt fraction.isLt, Nat.shiftLeft_eq, Nat.shiftLeft_eq]
  cases s with
  | negative =>
    change (1 * 2 ^ 11 + stored.toNat) * 2 ^ 52 + fraction.toNat = _ + 2 ^ 63
    omega
  | positive =>
    change (0 * 2 ^ 11 + stored.toNat) * 2 ^ 52 + fraction.toNat = _ + 0
    omega

theorem toBitVec_bits (s : Sign) (m : ℕ) {stored : ℕ} (hstored : stored < 2 ^ (11 : ℕ)) :
    (stored * 2 ^ (52 : ℕ) + m % 2 ^ (52 : ℕ) + signBits s).toUInt64.toBitVec
      = packComponents binary64 s (BitVec.ofNat 11 stored) (BitVec.ofNat 52 m) := by
  have hsign : signBits s ≤ 2 ^ (63 : ℕ) := by cases s <;> decide
  refine BitVec.eq_of_toNat_eq ?_
  rw [toNat_packComponents, BitVec.toNat_ofNat, BitVec.toNat_ofNat, Nat.mod_eq_of_lt hstored]
  refine UInt64.toNat_ofNat_of_lt' ?_
  have hfraction : m % 2 ^ (52 : ℕ) < 2 ^ (52 : ℕ) := Nat.mod_lt _ (by decide)
  change _ < 2 ^ 64
  omega

/-- The bits of a canonical pair: a leading one is counted in the stored exponent. -/
theorem unpack_bits (s : Sign) (h : Canonical m e) (he : e ≤ 971) :
    unpack binary64 ((e + 1074).toNat * 2 ^ (52 : ℕ) + m + signBits s).toUInt64.toBitVec
      = assemble s m e := by
  obtain ⟨hlt, hleast, hnormal⟩ := h
  by_cases hm : 2 ^ 52 ≤ m
  · have hsum : (e + 1074).toNat * 2 ^ (52 : ℕ) + m
        = (e + 1075).toNat * 2 ^ (52 : ℕ) + m % 2 ^ (52 : ℕ) := by omega
    have hm0 : 0 < m := by omega
    rw [hsum, toBitVec_bits s m (by omega), unpack_normal s (by omega) (by omega) hm hlt hm0,
      assemble, dif_neg hm0.ne']
    exact finite_congr rfl (by omega)
  · have he : e = -1074 := hnormal.resolve_right hm
    have hsum : (e + 1074).toNat * 2 ^ (52 : ℕ) + m
        = 0 * 2 ^ (52 : ℕ) + m % 2 ^ (52 : ℕ) := by omega
    rw [hsum, toBitVec_bits s m (by decide)]
    rcases Nat.eq_zero_or_pos m with rfl | hm0
    · rw [assemble, dif_pos rfl]
      exact Float.Model.UnpackedFloat.unpack_packedZero
    · rw [assemble, dif_neg hm0.ne', he]
      exact unpack_subnormal s (by omega) hm0

namespace Number

theorem holds_ofBits {n : ℕ} (h : Canonical m e) (he : e ≤ 971)
    (hn : n = (e + 1074).toNat * 2 ^ (52 : ℕ) + m + signBits s) :
    Holds (Float.ofBits n.toUInt64).toModel.unpack (ofSign s (m * 2 ^ e)) := by
  have hparts := unpack_bits s h he
  rw [← hn] at hparts
  change Holds (unpack binary64 (pack binary64 (unpack binary64 n.toUInt64.toBitVec))) _
  rw [hparts, (holds_assemble s h he).unpack_pack]
  exact holds_assemble s h he

/-- A value with few enough places is put together without loss. -/
theorem holds_toFloat (hlt : b.significand < 2 ^ 53) (hleast : -1074 ≤ b.exponent)
    (hmost : b.exponent ≤ 971) : Holds b.toFloat.toModel.unpack b.value := by
  obtain ⟨negative, significand, exponent⟩ := b
  let s : Sign := if negative then .negative else .positive
  have hnegative : negative = (s == .negative) := by cases negative <;> rfl
  have hsign : (if negative then 2 ^ (63 : ℕ) else 0) = signBits s := by cases negative <;> rfl
  have hbits : (Binary.mk negative significand exponent).toFloat
      = Float.ofBits ((Binary.mk negative significand exponent).magnitudeBits
          + signBits s).toUInt64 := by
    rw [← hsign]
    rfl
  rw [hbits, hnegative, value_mk, Binary.magnitudeBits]
  by_cases hzero : significand = 0
  · rw [if_pos hzero, hzero, Nat.cast_zero, zero_mul, ← zero_mul ((2 : ℚ) ^ (-1074 : ℤ)),
      ← Nat.cast_zero]
    exact holds_ofBits ⟨by decide, le_rfl, .inl rfl⟩ (by decide) rfl
  · let up := min (52 - (Nat.log2 significand : ℤ)) (exponent + 1074)
    have hlog : Nat.log2 significand ≤ 52 :=
      Nat.lt_succ_iff.mp ((Nat.log2_lt hzero).mpr hlt)
    have hup : 0 ≤ up := le_min (by omega) (by simp only at hleast; omega)
    have hmoved := log2_shiftLeft hzero up.toNat
    have hmoved0 : significand <<< up.toNat ≠ 0 := by
      rw [Nat.shiftLeft_eq]
      positivity
    have hcanonical : Canonical (significand <<< up.toNat) (exponent - up) := by
      refine ⟨(Nat.log2_lt hmoved0).mp (by omega), by omega, ?_⟩
      rcases min_choice (52 - (Nat.log2 significand : ℤ)) (exponent + 1074) with hfull | hleast
      · exact .inr ((Nat.le_log2 hmoved0).mp (by omega))
      · exact .inl (by omega)
    rw [if_neg hzero]
    simp only
    rw [if_neg (show ¬up < 0 by omega)]
    have hvalue := shiftLeft_value significand (show exponent - up ≤ exponent by omega)
    rw [show (exponent - (exponent - up)).toNat = up.toNat by omega] at hvalue
    rw [← hvalue]
    exact holds_ofBits hcanonical (by simp only at hmost; omega) rfl

/-! ## Taking remainders -/

/-- What is left of a dividend when multiples of a divisor are taken away until the rest is nearer
to zero than the divisor, without passing zero. -/
structure IsCutRemainder (v w r : ℚ) : Prop where
  abs_lt : |r| < |w|
  abs_sub : |v - r| = |v| - |r|
  multiple : ∃ k : ℤ, v - r = k * w

/-- A size on a finer grid. -/
theorem abs_value_on_grid {grid : ℤ} (h : grid ≤ b.exponent) :
    |b.value| = (b.significand * 2 ^ (b.exponent - grid).toNat : ℕ) * 2 ^ grid := by
  rw [abs_value, ← shiftLeft_value b.significand h, Nat.shiftLeft_eq]

theorem significand_ne_zero (hc : c.value ≠ 0) : c.significand ≠ 0 := by
  intro hzero
  refine hc (abs_eq_zero.mp ?_)
  rw [abs_value, hzero, Nat.cast_zero, zero_mul]

theorem value_of_abs {q : ℚ} (b : Binary) (hq : |b.value| = q) :
    b.value = ofSign (if b.negative then .negative else .positive) q := by
  rw [← hq, abs_value, ← value_mk]
  obtain ⟨_ | _, significand, exponent⟩ := b <;> rfl

/-- The remainder of parts is a remainder. -/
theorem isCutRemainder_remainder (hc : c.value ≠ 0) :
    IsCutRemainder b.value c.value (b.remainder c).value := by
  let grid := min b.exponent c.exponent
  let dividend := b.significand * 2 ^ (b.exponent - grid).toNat
  let divisor := c.significand * 2 ^ (c.exponent - grid).toNat
  have hdividend : |b.value| = dividend * 2 ^ grid := abs_value_on_grid (min_le_left _ _)
  have hdivisor : |c.value| = divisor * 2 ^ grid := abs_value_on_grid (min_le_right _ _)
  have hrest : |(b.remainder c).value| = (dividend % divisor : ℕ) * 2 ^ grid := abs_value _
  have hpos : 0 < divisor :=
    Nat.mul_pos (Nat.pos_of_ne_zero (significand_ne_zero hc)) (Nat.two_pow_pos _)
  have hsplit : |b.value| - |(b.remainder c).value| = (dividend / divisor : ℕ) * |c.value| := by
    have hnat : (dividend : ℚ) = divisor * (dividend / divisor : ℕ) + (dividend % divisor : ℕ) := by
      exact_mod_cast (Nat.div_add_mod dividend divisor).symm
    rw [hdividend, hrest, hdivisor, hnat]
    ring
  have htaken : |b.value - (b.remainder c).value| = |b.value| - |(b.remainder c).value| := by
    have hnonneg : 0 ≤ |b.value| - |(b.remainder c).value| := by
      rw [hsplit]
      positivity
    rw [← abs_of_nonneg hnonneg]
    conv_lhs => rw [value_of_abs b rfl, value_of_abs (b.remainder c) rfl]
    exact (congrArg abs (ofSign_sub ..)).trans (abs_ofSign ..)
  constructor
  · rw [hrest, hdivisor]
    exact mul_lt_mul_of_pos_right (by exact_mod_cast Nat.mod_lt dividend hpos) (two_zpow_pos grid)
  · exact htaken
  · rw [← htaken, ← Nat.abs_cast, ← abs_mul, abs_eq_abs] at hsplit
    rcases hsplit with htaken | htaken
    · exact ⟨(dividend / divisor : ℕ), htaken⟩
    · refine ⟨-((dividend / divisor : ℕ) : ℤ), ?_⟩
      rw [htaken, Int.cast_neg, Int.cast_natCast, neg_mul]

variable {x y : Float}

/-- **The cut remainder of doubles is exact.** -/
theorem cutRemainder_exact (hx : Binary.ofFloat? x = some b) (hy : Binary.ofFloat? y = some c)
    (hzero : c.value ≠ 0) :
    ∃ r, Binary.ofFloat? (cutRemainder x y) = some r ∧ IsCutRemainder b.value c.value r.value := by
  obtain ⟨⟨hb, hbleast, -⟩, hbmost⟩ := canonical_of_ofFloat? hx
  obtain ⟨⟨hc, hcleast, -⟩, hcmost⟩ := canonical_of_ofFloat? hy
  have hcut : cutRemainder x y = (b.remainder c).toFloat := by
    rw [cutRemainder, hx, hy]
    exact if_neg (significand_ne_zero hzero)
  have hfits : (b.remainder c).significand < 2 ^ 53 := by
    rcases le_total b.exponent c.exponent with hle | hle
    · rw [Binary.remainder, min_eq_left hle]
      refine (Nat.mod_le _ _).trans_lt ?_
      simpa using hb
    · rw [Binary.remainder, min_eq_right hle]
      have hpos := Nat.pos_of_ne_zero (significand_ne_zero hzero)
      refine (Nat.mod_lt _ (Nat.mul_pos hpos (Nat.two_pow_pos _))).trans ?_
      simpa using hc
  have hholds := holds_toFloat hfits (show -1074 ≤ min b.exponent c.exponent by omega)
    (show min b.exponent c.exponent ≤ 971 by omega)
  rw [← hcut] at hholds
  obtain ⟨r, hr, hvalue⟩ := hholds.ofFloat?
  refine ⟨r, hr, ?_⟩
  rw [hvalue]
  exact isCutRemainder_remainder hzero

end Number

end Formulary
