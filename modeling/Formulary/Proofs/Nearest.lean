/-
Formulary.Proofs.Nearest — the arithmetic of doubles is exact arithmetic, rounded.

A finite double is a rational number. The sum, the difference, the product and the quotient of two
of them is a finite double nearest to the exact result, unless that is too large for a double; then
it is the infinity with the sign of the exact result. `IsRounded` says so of one result, and there
is one law for each operation. For sums there is a second one that says how ties are broken
(`IsRoundedToEven`).

The laws go through the parts of doubles. `Holds` ties these to rational numbers, so that each
operation is looked at once, on parts, and the difference is a sum.
-/
import Formulary.Proofs.Doubles
import Formulary.Proofs.Rounding

namespace Formulary

open Float.Model (UnpackedFloat)
open Float.Model.Format (binary64)
open Float.Model.UnpackedFloat (Sign Accuracy unpack pack normalize roundWithAccuracy)
open Rounding

/-- The rational number that a finite double is. -/
def Binary.value (b : Binary) : ℚ :=
  b.signed * 2 ^ b.exponent

namespace Number

/-- The double is the exact number, rounded: a nearest double, or an infinity if the number is too
large for a double. -/
structure IsRounded (q : ℚ) (x : Float) : Prop where
  overflow : tooLarge ≤ |q| → x = if q < 0 then -infinity else infinity
  nearest : |q| < tooLarge → ∃ z, Binary.ofFloat? x = some z ∧
    ∀ y w, Binary.ofFloat? y = some w → |q - z.value| ≤ |q - w.value|

/-- The double is the exact number, rounded, and if another double is as near, the one with the even
significand. -/
structure IsRoundedToEven (q : ℚ) (x : Float) : Prop extends IsRounded q x where
  even : ∀ z y w, Binary.ofFloat? x = some z → Binary.ofFloat? y = some w →
    abs (|q| - |w.value|) = abs (|q| - |z.value|) → |w.value| = |z.value| ∨ z.significand % 2 = 0

/-! ## Parts -/

/-- A size with a sign. -/
def ofSign : Sign → ℚ → ℚ
  | .negative, v => -v
  | .positive, v => v

/-- The parts of a finite double are those of the number. -/
inductive Holds : UnpackedFloat → ℚ → Prop
  | zero (s : Sign) : Holds (.zero s) 0
  | finite (s : Sign) {m : ℕ} {e : ℤ} (hm : 0 < m) (hcanonical : Canonical m e) (he : e ≤ 971) :
      Holds (.finite s m e hm) (ofSign s (m * 2 ^ e))

variable {x y : Float} {b z : Binary} {p r : UnpackedFloat} {q v w : ℚ} {s : Sign} {m M : ℕ}
  {e k : ℤ}

theorem abs_ofSign (s : Sign) (v : ℚ) : |ofSign s v| = |v| := by
  cases s with
  | negative => exact abs_neg v
  | positive => rfl

theorem ofSign_zero (s : Sign) : ofSign s 0 = 0 := by
  cases s with
  | negative => exact neg_zero
  | positive => rfl

theorem ofSign_sub (s : Sign) (v w : ℚ) : ofSign s v - ofSign s w = ofSign s (v - w) := by
  cases s with
  | negative => exact (neg_sub_neg v w).trans (neg_sub v w).symm
  | positive => rfl

theorem value_mk (s : Sign) (m : ℕ) (e : ℤ) :
    (Binary.mk (s == .negative) m e).value = ofSign s (m * 2 ^ e) := by
  cases s with
  | negative =>
    change (((-(m : ℤ) : ℤ)) : ℚ) * 2 ^ e = -(m * 2 ^ e)
    push_cast
    ring
  | positive => rfl

theorem abs_value (b : Binary) : |b.value| = b.significand * 2 ^ b.exponent := by
  rw [Binary.value, abs_mul, abs_of_pos (two_zpow_pos b.exponent), Binary.signed]
  split <;> simp

/-- The significand and the exponent of a double. -/
theorem canonical_of_ofFloat? (h : Binary.ofFloat? x = some b) :
    Canonical b.significand b.exponent ∧ b.exponent ≤ 971 := by
  have hfraction : (x.toBits &&& 0xFFFFFFFFFFFFF).toNat < 2 ^ 52 := by
    rw [Binary.fraction_eq]
    exact BitVec.isLt _
  have hstored : ((x.toBits >>> 52) &&& 0x7FF).toNat < 2 ^ 11 := by
    rw [Binary.stored_eq]
    exact BitVec.isLt _
  unfold Binary.ofFloat? at h
  generalize ((x.toBits >>> 52) &&& 0x7FF).toNat = stored at h hstored
  generalize (x.toBits &&& 0xFFFFFFFFFFFFF).toNat = fraction at h hfraction
  simp only at h
  split at h
  case isTrue => cases h
  case isFalse hmost =>
    split at h
    case isTrue =>
      cases h
      exact ⟨⟨hfraction.trans (by norm_num), le_rfl, .inl rfl⟩, by norm_num⟩
    case isFalse hleast =>
      cases h
      refine ⟨⟨?_, ?_, .inr ?_⟩, ?_⟩ <;> simp only <;> omega

/-- A double with an exact value has the parts of that value. -/
theorem holds_of_ofFloat? (h : Binary.ofFloat? x = some b) : Holds x.toModel.unpack b.value := by
  have hcanonical := canonical_of_ofFloat? h
  rw [Binary.ofFloat?_eq] at h
  cases hx : x.toModel.unpack with
  | zero s =>
    rw [hx] at h
    cases h
    rw [value_mk, Nat.cast_zero, zero_mul, ofSign_zero]
    exact .zero s
  | finite s m e hm =>
    rw [hx] at h
    cases h
    rw [value_mk]
    exact .finite s hm hcanonical.1 hcanonical.2
  | infinity | notANumber =>
    rw [hx] at h
    cases h

theorem Holds.ofFloat? (h : Holds x.toModel.unpack v) :
    ∃ z, Binary.ofFloat? x = some z ∧ z.value = v := by
  rw [Binary.ofFloat?_eq]
  generalize x.toModel.unpack = p at h
  cases h with
  | zero s =>
    refine ⟨_, rfl, ?_⟩
    rw [value_mk, Nat.cast_zero, zero_mul, ofSign_zero]
  | finite s hm hcanonical he => exact ⟨_, rfl, value_mk ..⟩

/-- A finite double is not too large. -/
theorem Holds.abs_lt (h : Holds p v) : |v| < tooLarge := by
  cases h with
  | zero s =>
    rw [abs_zero]
    exact tooLarge_pos
  | @finite s m e hm hcanonical he =>
    rw [abs_ofSign, abs_of_nonneg (mul_nonneg m.cast_nonneg (two_zpow_pos e).le)]
    exact lt_tooLarge (lt_of_le_of_lt hcanonical.le_greatest (by norm_num)) (by norm_num) he
      tooLarge_eq.ge

/-- A double is nearest to itself. -/
theorem Holds.isRoundedToEven (h : Holds x.toModel.unpack v) : IsRoundedToEven v x where
  overflow := fun hlarge => absurd hlarge h.abs_lt.not_ge
  nearest := by
    intro _
    obtain ⟨z, hz, rfl⟩ := h.ofFloat?
    refine ⟨z, hz, fun y w _ => ?_⟩
    rw [sub_self, abs_zero]
    exact abs_nonneg _
  even := by
    intro z y w hz _ hsame
    obtain ⟨z', hz', rfl⟩ := h.ofFloat?
    obtain rfl := Option.some.inj (hz.symm.trans hz')
    rw [sub_self, abs_zero, abs_eq_zero, sub_eq_zero] at hsame
    exact .inl hsame.symm

/-- Packing keeps the parts of a double. -/
theorem Holds.unpack_pack (h : Holds p v) : unpack binary64 (pack binary64 p) = p := by
  cases h with
  | zero s => exact Float.Model.UnpackedFloat.unpack_packedZero
  | @finite s m e hm hcanonical he =>
    have hassemble : assemble s m e = .finite s m e hm := dif_neg hm.ne'
    rw [← hassemble, unpack_pack_assemble s hcanonical, if_neg (by omega)]

theorem Holds.neg (h : Holds p v) : Holds p.neg (-v) := by
  cases h with
  | zero s => exact neg_zero (G := ℚ).symm ▸ Holds.zero (-s)
  | @finite s m e hm hcanonical he =>
    have hneg : -ofSign s (m * 2 ^ e) = ofSign (-s) (m * 2 ^ e) := by
      cases s with
      | negative => exact neg_neg _
      | positive => rfl
    rw [hneg]
    exact .finite (-s) hm hcanonical he

theorem holds_assemble (s : Sign) (h : Canonical m e) (he : e ≤ 971) :
    Holds (assemble s m e) (ofSign s (m * 2 ^ e)) := by
  by_cases hm : m = 0
  · rw [assemble, dif_pos hm, hm, Nat.cast_zero, zero_mul, ofSign_zero]
    exact .zero s
  · rw [assemble, dif_neg hm]
    exact .finite s _ h he

/-! ## Rounded parts -/

theorem ofFloat?_of_assemble (hx : x.toModel.unpack = assemble s m e)
    (hz : Binary.ofFloat? x = some z) : z.significand = m := by
  rw [Binary.ofFloat?_eq, hx, assemble] at hz
  split at hz
  case isTrue hm =>
    cases hz
    exact hm.symm
  case isFalse =>
    cases hz
    rfl

/-- Packing a nearest pair gives the rounded number. -/
theorem isRoundedToEven_of_rounded (h : Rounded v M k) (hv : 0 ≤ v)
    (hx : x.toModel.unpack = unpack binary64 (pack binary64 (assemble s M k))) :
    IsRoundedToEven (ofSign s v) x := by
  rw [unpack_pack_assemble s h.canonical] at hx
  refine ⟨⟨?_, ?_⟩, ?_⟩
  · intro hlarge
    rw [abs_ofSign, abs_of_nonneg hv] at hlarge
    rw [if_pos (h.tooLarge_iff.mp hlarge)] at hx
    have hpos : 0 < v := tooLarge_pos.trans_le hlarge
    cases s with
    | negative => exact (eq_of_unpack_eq hx).trans (if_pos (neg_lt_zero.mpr hpos)).symm
    | positive => exact (eq_of_unpack_eq hx).trans (if_neg hv.not_gt).symm
  · intro hsmall
    rw [abs_ofSign, abs_of_nonneg hv] at hsmall
    have hk : ¬972 ≤ k := fun hk => absurd (h.tooLarge_iff.mpr hk) hsmall.not_ge
    rw [if_neg hk] at hx
    obtain ⟨z, hz, hzvalue⟩ := (hx ▸ holds_assemble s h.canonical (by omega)).ofFloat?
    refine ⟨z, hz, fun y w hw => ?_⟩
    calc |ofSign s v - z.value| = |v - M * 2 ^ k| := by rw [hzvalue, ofSign_sub, abs_ofSign]
      _ ≤ |v - w.significand * 2 ^ w.exponent| := h.nearest _ _ (canonical_of_ofFloat? hw).1
      _ = abs (|ofSign s v| - |w.value|) := by rw [abs_ofSign, abs_of_nonneg hv, abs_value]
      _ ≤ |ofSign s v - w.value| := abs_abs_sub_abs_le _ _
  · intro z y w hz hw hsame
    by_cases hk : 972 ≤ k
    · rw [if_pos hk] at hx
      rw [Binary.ofFloat?_eq, hx] at hz
      cases hz
    · rw [if_neg hk] at hx
      obtain ⟨z', hz', hzvalue⟩ := (hx ▸ holds_assemble s h.canonical (by omega)).ofFloat?
      obtain rfl := Option.some.inj (hz.symm.trans hz')
      have hsize : |z.value| = M * 2 ^ k := by
        rw [hzvalue, abs_ofSign, abs_of_nonneg (mul_nonneg M.cast_nonneg (two_zpow_pos k).le)]
      rw [ofFloat?_of_assemble hx hz, hsize, abs_value]
      refine h.even _ _ (canonical_of_ofFloat? hw).1 ?_
      rwa [hsize, abs_value, abs_ofSign, abs_of_nonneg hv] at hsame

variable {u : ℚ} {accuracy : Accuracy} {n : ℤ}

theorem isRoundedToEven_roundWithAccuracy (h : Approximates m u accuracy) (he : e ≤ target m e)
    (hx : x.toModel.unpack
      = unpack binary64 (pack binary64 (roundWithAccuracy binary64 s m e accuracy))) :
    IsRoundedToEven (ofSign s (u * 2 ^ e)) x := by
  obtain ⟨M, k, hrounded, hround⟩ := roundWithAccuracy_eq s h he
  have hu : 0 ≤ u := m.cast_nonneg.trans h.bounds.1
  rw [hround] at hx
  exact isRoundedToEven_of_rounded hrounded (mul_nonneg hu (two_zpow_pos e).le) hx

theorem log2_shiftLeft (hm : m ≠ 0) (a : ℕ) : (m <<< a).log2 = m.log2 + a := by
  have hpos : m <<< a ≠ 0 := by
    rw [Nat.shiftLeft_eq]
    positivity
  rw [Nat.log2_eq_iff hpos, Nat.shiftLeft_eq, pow_add, add_right_comm, pow_add]
  exact ⟨Nat.mul_le_mul_right _ (Nat.log2_self_le hm),
    Nat.mul_lt_mul_of_pos_right Nat.lt_log2_self (by positivity)⟩

/-- Decreasing the exponent keeps the number. -/
theorem shiftLeft_value (m : ℕ) (hk : k ≤ e) :
    ((m <<< (e - k).toNat : ℕ) : ℚ) * 2 ^ k = m * 2 ^ e := by
  have he : e = ((e - k).toNat : ℤ) + k := by omega
  rw [Nat.shiftLeft_eq, Nat.cast_mul, Nat.cast_pow, Nat.cast_two, mul_assoc]
  conv_rhs => rw [he, zpow_add₀ two_ne_zero, zpow_natCast]

theorem isRoundedToEven_round (hm : m ≠ 0)
    (hx : x.toModel.unpack
      = unpack binary64 (pack binary64 (UnpackedFloat.round binary64 s m e))) :
    IsRoundedToEven (ofSign s (m * 2 ^ e)) x := by
  let shift := (e - target m e).toNat
  have htarget : target (m <<< shift) (e - shift) = target m e := by
    rw [target_eq, target_eq, log2_shiftLeft hm]
    congr 1
    push_cast
    ring
  have hvalue : ((m <<< shift : ℕ) : ℚ) * 2 ^ (e - (shift : ℤ)) = m * 2 ^ e := by
    have hshift : (e - (e - (shift : ℤ))).toNat = shift := by omega
    have hsame := shiftLeft_value m (show e - (shift : ℤ) ≤ e by omega)
    rwa [hshift] at hsame
  have hexact : Approximates (m <<< shift) ((m <<< shift : ℕ) : ℚ) .exact := rfl
  have hround : UnpackedFloat.round binary64 s m e
      = roundWithAccuracy binary64 s (m <<< shift) (e - shift) .exact := rfl
  rw [← hvalue]
  rw [hround] at hx
  exact isRoundedToEven_roundWithAccuracy hexact (by rw [htarget]; omega) hx

theorem isRoundedToEven_normalize {zeroSign : Sign}
    (hx : x.toModel.unpack
      = unpack binary64 (pack binary64 (normalize binary64 n e zeroSign))) :
    IsRoundedToEven (n * 2 ^ e) x := by
  unfold UnpackedFloat.normalize at hx
  rcases Int.lt_trichotomy n 0 with hn | rfl | hn
  · rw [Int.compare_eq_lt.mpr hn] at hx
    have hrounded := isRoundedToEven_round (by omega) hx
    have hsize : (((-n).toNat : ℕ) : ℚ) = -n := by
      have : (((-n).toNat : ℕ) : ℤ) = -n := Int.toNat_of_nonneg (by omega)
      exact_mod_cast this
    rw [hsize, neg_mul, ofSign, neg_neg] at hrounded
    exact hrounded
  · change x.toModel.unpack = unpack binary64 (pack binary64 (.zero zeroSign)) at hx
    have hholds : Holds x.toModel.unpack 0 := by
      rw [hx, (Holds.zero zeroSign).unpack_pack]
      exact .zero zeroSign
    rw [Int.cast_zero, zero_mul]
    exact hholds.isRoundedToEven
  · rw [Int.compare_eq_gt.mpr hn] at hx
    have hrounded := isRoundedToEven_round (by omega) hx
    have hsize : ((n.toNat : ℕ) : ℚ) = n := by
      have : ((n.toNat : ℕ) : ℤ) = n := Int.toNat_of_nonneg (by omega)
      exact_mod_cast this
    rw [hsize, ofSign] at hrounded
    exact hrounded

/-! ## Sums and differences -/

theorem Holds.isRoundedToEven_add (hp : Holds p v) (hr : Holds r w)
    (hx : x.toModel.unpack = unpack binary64 (pack binary64 (UnpackedFloat.add binary64 p r))) :
    IsRoundedToEven (v + w) x := by
  -- A zero adds nothing; the sum of two zeros is a zero.
  have hkept : ∀ {p' : UnpackedFloat} {v' : ℚ}, Holds p' v' →
      x.toModel.unpack = unpack binary64 (pack binary64 p') → IsRoundedToEven v' x := by
    intro p' v' hp' hx'
    rw [hp'.unpack_pack] at hx'
    exact (hx' ▸ hp' : Holds x.toModel.unpack v').isRoundedToEven
  cases hp with
  | zero s =>
    rw [zero_add]
    cases hr with
    | zero s' =>
      refine hkept (.zero (if s == s' then s else .positive)) ?_
      rw [hx, UnpackedFloat.add]
      split <;> rfl
    | finite s' hm' hcanonical' he' => exact hkept (.finite s' hm' hcanonical' he') hx
  | @finite s m e hm hcanonical he =>
    cases hr with
    | zero s' =>
      rw [add_zero]
      exact hkept (.finite s hm hcanonical he) hx
    | @finite s' m' e' hm' hcanonical' he' =>
      have hsum := isRoundedToEven_normalize hx
      have happly : ∀ (s : Sign) (m : ℕ) (e : ℤ), ((s.apply m : ℤ) : ℚ) * 2 ^ e
          = ofSign s (m * 2 ^ e) := by
        intro s m e
        cases s <;> simp [Float.Model.UnpackedFloat.Sign.apply, ofSign]
      rw [Int.cast_add, add_mul, happly, happly, shiftLeft_value m (min_le_left e e'),
        shiftLeft_value m' (min_le_right e e')] at hsum
      exact hsum

theorem Holds.sub_eq_add_neg (hp : Holds p v) (hr : Holds r w) :
    UnpackedFloat.sub binary64 p r = UnpackedFloat.add binary64 p r.neg := by
  cases hp with
  | zero s => cases hr <;> rfl
  | finite s hm hcanonical he =>
    cases hr with
    | zero s' => rfl
    | finite s' hm' hcanonical' he' =>
      rw [UnpackedFloat.sub, UnpackedFloat.neg, UnpackedFloat.add]
      cases s' with
      | negative => simp [Float.Model.UnpackedFloat.Sign.apply]
      | positive => rfl

/-! ## Products and quotients -/

theorem Holds.isRounded_zero (hx : x.toModel.unpack = unpack binary64 (pack binary64 (.zero s))) :
    IsRounded 0 x := by
  rw [(Holds.zero s).unpack_pack] at hx
  exact (hx ▸ Holds.zero s : Holds x.toModel.unpack 0).isRoundedToEven.toIsRounded

theorem ofSign_mul_ofSign (s s' : Sign) (v w : ℚ) :
    ofSign s v * ofSign s' w = ofSign (s * s') (v * w) := by
  cases s <;> cases s'
  · exact neg_mul_neg v w
  · exact neg_mul v w
  · exact mul_neg v w
  · rfl

theorem ofSign_div_ofSign (s s' : Sign) (v w : ℚ) :
    ofSign s v / ofSign s' w = ofSign (s / s') (v / w) := by
  cases s <;> cases s'
  · exact neg_div_neg_eq v w
  · exact neg_div w v
  · exact div_neg v
  · rfl

/-- A product of mantissas with places enough for rounding is rounded. -/
theorem isRounded_finite_mul {s' : Sign} {m' : ℕ} {e' : ℤ} {hm : 0 < m} {hm' : 0 < m'}
    (htarget : e + e' ≤ target (m * m') (e + e'))
    (hx : x.toModel.unpack = unpack binary64 (pack binary64
      (UnpackedFloat.mul binary64 (.finite s m e hm) (.finite s' m' e' hm')))) :
    IsRounded (ofSign (s * s') (m * 2 ^ e * (m' * 2 ^ e'))) x := by
  have hexact : Approximates (m * m') ((m * m' : ℕ) : ℚ) .exact := rfl
  have hrounded := (isRoundedToEven_roundWithAccuracy hexact htarget hx).toIsRounded
  have hvalue : ((m * m' : ℕ) : ℚ) * 2 ^ (e + e') = m * 2 ^ e * (m' * 2 ^ e') := by
    rw [zpow_add₀ two_ne_zero]
    push_cast
    ring
  rwa [hvalue] at hrounded

theorem Holds.isRounded_mul (hp : Holds p v) (hr : Holds r w)
    (hx : x.toModel.unpack = unpack binary64 (pack binary64 (UnpackedFloat.mul binary64 p r))) :
    IsRounded (v * w) x := by
  cases hp with
  | zero s =>
    rw [zero_mul]
    cases hr with
    | zero s' => exact isRounded_zero hx
    | finite s' hm' hcanonical' he' => exact isRounded_zero hx
  | @finite s m e hm hcanonical he =>
    cases hr with
    | zero s' =>
      rw [mul_zero]
      exact isRounded_zero hx
    | @finite s' m' e' hm' hcanonical' he' =>
      rw [ofSign_mul_ofSign]
      refine isRounded_finite_mul ?_ hx
      rw [target_eq]
      rcases le_or_gt (e + e') (-1074) with hsmall | hlarge
      · exact hsmall.trans (le_max_right _ _)
      · -- One of the mantissas has a leading one, so the product has one too.
        have hproduct : 2 ^ 52 ≤ m * m' := by
          rcases hcanonical.least with hleast | hnormal
          · have hnormal' := hcanonical'.least.resolve_left (by omega)
            exact hnormal'.trans (Nat.le_mul_of_pos_left m' hm)
          · exact hnormal.trans (Nat.le_mul_of_pos_right m hm')
        have hlog : 52 ≤ (m * m').log2 := (Nat.le_log2 (by positivity)).mpr hproduct
        omega

/-- The remainder of a division says how far the quotient is above the whole number. -/
theorem approximates_quotient {a d : ℕ} (hd : 0 < d) :
    Approximates (a / d) (a / d) (UnpackedFloat.accuracyOfFraction (a % d) d) := by
  have hdQ : (0 : ℚ) < d := by exact_mod_cast hd
  have hsplit : (a : ℚ) / d = (a / d : ℕ) + ((a % d : ℕ) : ℚ) / d := by
    have hnat : (a : ℚ) = d * (a / d : ℕ) + (a % d : ℕ) := by
      exact_mod_cast (Nat.div_add_mod a d).symm
    conv_lhs => rw [hnat, add_div, mul_div_cancel_left₀ _ hdQ.ne']
  have hone : ((a % d : ℕ) : ℚ) / d < 1 := by
    rw [div_lt_one hdQ]
    exact_mod_cast Nat.mod_lt a hd
  rw [UnpackedFloat.accuracyOfFraction]
  split
  case isTrue hzero =>
    rw [hzero, Nat.cast_zero, zero_div, add_zero] at hsplit
    exact hsplit
  case isFalse hpos =>
    have hposQ : 0 < ((a % d : ℕ) : ℚ) / d :=
      div_pos (by exact_mod_cast Nat.pos_of_ne_zero hpos) hdQ
    rcases Nat.lt_trichotomy (2 * (a % d)) d with hhalf | hhalf | hhalf
    · have hhalfQ : ((a % d : ℕ) : ℚ) / d < 1 / 2 := by
        rw [div_lt_iff₀ hdQ]
        have : (2 : ℚ) * (a % d : ℕ) < d := by exact_mod_cast hhalf
        linarith
      rw [Nat.compare_eq_lt.mpr hhalf, Approximates]
      constructor <;> linarith
    · have hhalfQ : ((a % d : ℕ) : ℚ) / d = 1 / 2 := by
        rw [div_eq_iff hdQ.ne']
        have : (2 : ℚ) * (a % d : ℕ) = d := by exact_mod_cast hhalf
        linarith
      rw [Nat.compare_eq_eq.mpr hhalf, Approximates]
      linarith
    · have hhalfQ : 1 / 2 < ((a % d : ℕ) : ℚ) / d := by
        rw [lt_div_iff₀ hdQ]
        have : (d : ℚ) < 2 * (a % d : ℕ) := by exact_mod_cast hhalf
        linarith
      rw [Nat.compare_eq_gt.mpr hhalf, Approximates]
      constructor <;> linarith

/-- The quotient of mantissas is taken with places enough for rounding. -/
theorem quotient_target {m' : ℕ} (e' : ℤ) (hm : 0 < m) (hm' : 0 < m') {t : ℤ}
    (ht : t = min (e - e') (max (m.log2 + 1 + e - (m'.log2 + 1 + e') - 53) (-1074))) :
    t ≤ target (m <<< (e - e' - t).toNat / m') t := by
  rw [target_eq]
  rcases le_or_gt t (-1074) with hsmall | hlarge
  · exact hsmall.trans (le_max_right _ _)
  · have hshift : m'.log2 + 53 ≤ m.log2 + (e - e' - t).toNat := by omega
    have hquotient : 2 ^ 52 ≤ m <<< (e - e' - t).toNat / m' := by
      rw [Nat.le_div_iff_mul_le hm', Nat.shiftLeft_eq]
      calc 2 ^ 52 * m' ≤ 2 ^ 52 * 2 ^ (m'.log2 + 1) := Nat.mul_le_mul_left _ Nat.lt_log2_self.le
        _ = 2 ^ (m'.log2 + 53) := by rw [← pow_add]; congr 1; omega
        _ ≤ 2 ^ (m.log2 + (e - e' - t).toNat) := Nat.pow_le_pow_right two_pos hshift
        _ = 2 ^ m.log2 * 2 ^ (e - e' - t).toNat := pow_add ..
        _ ≤ m * 2 ^ (e - e' - t).toNat := Nat.mul_le_mul_right _ (Nat.log2_self_le hm.ne')
    have hlog : 52 ≤ (m <<< (e - e' - t).toNat / m').log2 :=
      (Nat.le_log2 (by omega)).mpr hquotient
    omega

/-- A quotient of mantissas is rounded. -/
theorem isRounded_finite_div {s' : Sign} {m' : ℕ} {e' : ℤ} {hm : 0 < m} {hm' : 0 < m'}
    (hx : x.toModel.unpack = unpack binary64 (pack binary64
      (UnpackedFloat.div binary64 (.finite s m e hm) (.finite s' m' e' hm')))) :
    IsRounded (ofSign (s / s') (m * 2 ^ e / (m' * 2 ^ e'))) x := by
  let t := min (e - e') (max (m.log2 + 1 + e - (m'.log2 + 1 + e') - 53) (-1074))
  have hrounded := (isRoundedToEven_roundWithAccuracy (approximates_quotient hm')
    (quotient_target e' hm hm' (t := t) rfl) hx).toIsRounded
  have hm'Q : (m' : ℚ) ≠ 0 := by exact_mod_cast hm'.ne'
  have hvalue : ((m <<< (e - e' - t).toNat : ℕ) : ℚ) / m' * 2 ^ t = m * 2 ^ e / (m' * 2 ^ e') := by
    rw [div_mul_eq_mul_div, shiftLeft_value m (min_le_left _ _), zpow_sub₀ two_ne_zero]
    field_simp
  rwa [hvalue] at hrounded

theorem Holds.isRounded_div (hp : Holds p v) (hr : Holds r w) (hw : w ≠ 0)
    (hx : x.toModel.unpack = unpack binary64 (pack binary64 (UnpackedFloat.div binary64 p r))) :
    IsRounded (v / w) x := by
  cases hr with
  | zero s' => exact absurd rfl hw
  | @finite s' m' e' hm' hcanonical' he' =>
    cases hp with
    | zero s =>
      rw [zero_div]
      exact isRounded_zero hx
    | @finite s m e hm hcanonical he =>
      rw [ofSign_div_ofSign]
      exact isRounded_finite_div hx

/-! ## Operations on doubles -/

variable {c : Binary}

/-- A sum of doubles is the exact sum, rounded, ties to even. -/
theorem isRoundedToEven_add (hx : Binary.ofFloat? x = some b) (hy : Binary.ofFloat? y = some c) :
    IsRoundedToEven (b.value + c.value) (x + y) :=
  (holds_of_ofFloat? hx).isRoundedToEven_add (holds_of_ofFloat? hy) rfl

/-- A sum of doubles is the exact sum, rounded. -/
theorem isRounded_add (hx : Binary.ofFloat? x = some b) (hy : Binary.ofFloat? y = some c) :
    IsRounded (b.value + c.value) (x + y) :=
  (isRoundedToEven_add hx hy).toIsRounded

/-- A difference of doubles is the exact difference, rounded. -/
theorem isRounded_sub (hx : Binary.ofFloat? x = some b) (hy : Binary.ofFloat? y = some c) :
    IsRounded (b.value - c.value) (x - y) := by
  have hp := holds_of_ofFloat? hx
  have hr := holds_of_ofFloat? hy
  have hsum : IsRoundedToEven (b.value + -c.value) (x - y) :=
    hp.isRoundedToEven_add hr.neg (congrArg (fun p => unpack binary64 (pack binary64 p))
      (hp.sub_eq_add_neg hr))
  rw [sub_eq_add_neg]
  exact hsum.toIsRounded

/-- A product of doubles is the exact product, rounded. -/
theorem isRounded_mul (hx : Binary.ofFloat? x = some b) (hy : Binary.ofFloat? y = some c) :
    IsRounded (b.value * c.value) (x * y) :=
  (holds_of_ofFloat? hx).isRounded_mul (holds_of_ofFloat? hy) rfl

/-- A quotient of doubles is the exact quotient, rounded, if the divisor is not zero. -/
theorem isRounded_div (hx : Binary.ofFloat? x = some b) (hy : Binary.ofFloat? y = some c)
    (hzero : c.value ≠ 0) : IsRounded (b.value / c.value) (x / y) :=
  (holds_of_ofFloat? hx).isRounded_div (holds_of_ofFloat? hy) hzero rfl

end Number

end Formulary
