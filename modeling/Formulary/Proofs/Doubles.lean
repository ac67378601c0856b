/-
Formulary.Proofs.Doubles — what kinds of doubles there are.

A double is undefined, infinite, a zero or a finite number other than zero. The predicates of the
calculator ask about this kind in different ways: by comparing with zero, by the exact value, or by
the bits. Here they are tied to one another, so that a law about doubles can go through the kinds.
Nothing in here is about the result of an operation that rounds.
-/
import Mathlib
import Formulary.Number.Binary

namespace Formulary

open Float.Model (UnpackedFloat)
open Float.Model.UnpackedFloat (Sign unpackSign unpackExponent unpackMantissa)

-- Powers are those of the core library, as in the definitions that these laws are about.
attribute [local instance (high)] instPowNat

variable {x y : Float}

/-! ## The exact value -/

namespace Binary

/-- The exact value of a double that has been taken apart. -/
def ofUnpacked? : UnpackedFloat → Option Binary
  | .zero sign => some ⟨sign == .negative, 0, -1074⟩
  | .finite sign significand exponent _ => some ⟨sign == .negative, significand, exponent⟩
  | .infinity _ => none
  | .notANumber => none

theorem stored_eq (x : Float) :
    ((x.toBits >>> 52) &&& 0x7FF).toNat
      = (@unpackExponent .binary64 x.toBits.toBitVec).toNat := by
  rw [Float.Model.UnpackedFloat.unpackExponent_def, BitVec.extractLsb'_toNat, UInt64.toNat_and,
    UInt64.toNat_shiftRight]
  exact Nat.and_two_pow_sub_one_eq_mod _ 11

theorem fraction_eq (x : Float) :
    (x.toBits &&& 0xFFFFFFFFFFFFF).toNat
      = (@unpackMantissa .binary64 x.toBits.toBitVec).toNat := by
  rw [Float.Model.UnpackedFloat.unpackMantissa_def, BitVec.extractLsb'_toNat, UInt64.toNat_and,
    Nat.shiftRight_zero]
  exact Nat.and_two_pow_sub_one_eq_mod _ 52

theorem signBit_eq (x : Float) :
    signBit x
      = (Sign.ofBitVec (@unpackSign .binary64 x.toBits.toBitVec) == .negative) := by
  have hbit : (x.toBits >>> 63).toNat
      = (@unpackSign .binary64 x.toBits.toBitVec).toNat := by
    rw [Float.Model.UnpackedFloat.unpackSign_def, BitVec.extractLsb'_toNat,
      UInt64.toNat_shiftRight]
    have hlt := x.toBits.toNat_lt
    have hsmall : x.toBits.toNat >>> 63 < 2 := by
      rw [Nat.shiftRight_eq_div_pow]
      omega
    exact (Nat.mod_eq_of_lt hsmall).symm
  generalize @unpackSign .binary64 x.toBits.toBitVec = bit at hbit
  have hset : x.toBits >>> 63 = 1 ↔ bit = 1#1 := by
    rw [← UInt64.toNat_inj, hbit, ← BitVec.toNat_inj]
    rfl
  rw [signBit, Bool.eq_iff_iff, beq_iff_eq, hset]
  clear hbit hset
  revert bit
  decide

/-- The exact value of a double is that of its parts. -/
theorem ofFloat?_eq (x : Float) : ofFloat? x = ofUnpacked? x.toModel.unpack := by
  have hunpack : x.toModel.unpack = UnpackedFloat.unpack .binary64 x.toBits.toBitVec := rfl
  have hones : ∀ e : BitVec 11, e.toNat = 0x7FF ↔ e = -1#11 := fun e => by
    rw [← BitVec.toNat_inj]
    rfl
  have hzero : ∀ e : BitVec 11, e.toNat = 0 ↔ e = 0#11 := fun e => by
    rw [← BitVec.toNat_inj]
    rfl
  rw [hunpack, ofFloat?]
  simp only [stored_eq, fraction_eq, signBit_eq]
  fun_cases UnpackedFloat.unpack with
  | case1 fraction exponent _ sign hexponent =>
    rw [if_pos ((hones exponent).mpr hexponent)]
    rfl
  | case2 fraction exponent hexponent =>
    rw [if_pos ((hones exponent).mpr hexponent)]
    rfl
  | case3 fraction exponent _ sign hones' hexponent hfraction =>
    rw [if_neg (mt (hones exponent).mp hones'), if_pos ((hzero exponent).mpr hexponent)]
    exact congrArg (fun n => some (Binary.mk (sign == .negative) n (-1074)))
      (congrArg BitVec.toNat hfraction)
  | case4 fraction exponent e _ sign hones' hexponent hfraction =>
    rw [if_neg (mt (hones exponent).mp hones'), if_pos ((hzero exponent).mpr hexponent)]
    have hleast : e + 1 = -1074 := by
      simp only [e, hexponent]
      rfl
    rw [ofUnpacked?, hleast]
  | case5 fraction exponent e _ sign hones' hexponent =>
    rw [if_neg (mt (hones exponent).mp hones'), if_neg (mt (hzero exponent).mp hexponent)]
    have hleading : (1#1 ++ fraction).toNat = 2 ^ (52 : Nat) + fraction.toNat := by
      rw [BitVec.toNat_append, ← Nat.shiftLeft_add_eq_or_of_lt fraction.isLt]
      rfl
    rw [ofUnpacked?, hleading]
    rfl

end Binary

/-! ## The kinds -/

namespace Number

/-- A double is determined by its parts. -/
theorem eq_of_unpack_eq (h : x.toModel.unpack = y.toModel.unpack) : x = y :=
  Float.toBits_inj.mp (UInt64.toBitVec_inj.mp
    ((Float.Model.UnpackedFloat.unpack_inj_of_valid x.toModel.valid y.toModel.valid).mp h))

theorem eq_undefined_of_isNaN (h : x.isNaN = true) : x = undefined := by
  rw [Float.isNaN_eq_decide_eq_nan, decide_eq_true_eq] at h
  exact h

theorem eq_infinity_or_of_isInf (h : x.isInf = true) : x = infinity ∨ x = -infinity := by
  change x.toModel.unpack.isInf = true at h
  cases hx : x.toModel.unpack with
  | infinity sign =>
    cases sign with
    | positive => exact .inl (eq_of_unpack_eq hx)
    | negative => exact .inr (eq_of_unpack_eq hx)
  | notANumber | zero | finite =>
    rw [hx] at h
    cases h

theorem eq_zero_or_of_beq (h : (x == 0) = true) : x = 0 ∨ x = -0 := by
  obtain ⟨-, -, rfl | ⟨rfl, -⟩ | ⟨rfl, -⟩⟩ := Float.beq_iff_ne_nan_and_eq.mp h
  · exact .inl rfl
  · exact .inl rfl
  · exact .inr rfl

theorem isFinite_iff : x.isFinite = true ↔ x.isNaN = false ∧ x.isInf = false := by
  change x.toModel.unpack.isFinite = true ↔
    x.toModel.unpack.isNaN = false ∧ x.toModel.unpack.isInf = false
  cases x.toModel.unpack <;>
    simp [UnpackedFloat.isFinite, UnpackedFloat.isNaN, UnpackedFloat.isInf]

theorem lt_iff : x < y ↔ x.toModel.unpack.lt y.toModel.unpack = true :=
  decide_eq_true_iff

/-- A number that is no zero is on one side of zero. -/
theorem lt_zero_or_zero_lt (hx : x.isNaN = false) (hzero : (x == 0) = false) :
    x < 0 ∨ 0 < x := by
  change x.toModel.unpack.isNaN = false at hx
  change UnpackedFloat.beq x.toModel.unpack (.zero .positive) = false at hzero
  rw [lt_iff, lt_iff]
  change UnpackedFloat.lt x.toModel.unpack (.zero .positive) = true ∨
    UnpackedFloat.lt (.zero .positive) x.toModel.unpack = true
  cases h : x.toModel.unpack with
  | notANumber =>
    rw [h] at hx
    cases hx
  | zero sign =>
    rw [h] at hzero
    cases hzero
  | infinity sign => cases sign <;> decide
  | finite sign significand exponent positive =>
    cases sign with
    | positive => exact .inr rfl
    | negative => exact .inl rfl

/-- What is on one side of zero is no zero. -/
theorem ne_zero_of_lt_or_lt (h : x < 0 ∨ 0 < x) : (x == 0) = false := by
  rw [Bool.eq_false_iff]
  intro hzero
  rcases eq_zero_or_of_beq hzero with rfl | rfl <;> exact absurd h (by decide)

/-- A number is not on both sides of zero. -/
theorem not_lt_zero_of_zero_lt (h : 0 < x) : ¬x < 0 := by
  rw [lt_iff] at h ⊢
  change UnpackedFloat.lt (.zero .positive) x.toModel.unpack = true at h
  change ¬UnpackedFloat.lt x.toModel.unpack (.zero .positive) = true
  cases hx : x.toModel.unpack with
  | notANumber | zero =>
    rw [hx] at h
    cases h
  | infinity sign | finite sign =>
    cases sign with
    | positive => exact Bool.false_ne_true
    | negative =>
      rw [hx] at h
      cases h

/-- A double has an exact value as long as it is finite. -/
theorem ofFloat?_eq_none_iff : Binary.ofFloat? x = none ↔ x.isFinite = false := by
  rw [Binary.ofFloat?_eq]
  change _ ↔ x.toModel.unpack.isFinite = false
  cases x.toModel.unpack <;> simp [Binary.ofUnpacked?, UnpackedFloat.isFinite]

end Number

end Formulary
