/-
Formulary.Proofs.UniformText — a random text is any text over its alphabet, each for one sequence.

The alphabet of a random text is given by code points, in several ranges. These do not overlap, and
together they are the digits, the letters and the punctuation of the classes that are enabled; so
the positions in the ranges number the characters of the alphabet. A text of a given length is made
by as many draws, one after another, all below the number of characters. Hence the sequences of
numbers that can be drawn and the texts of that length over the alphabet correspond one to one.
-/
import Formulary.Proofs.RangeLayout

namespace Formulary

/-! ## Sequences of draws -/

namespace Drawing

/-- Make a number of draws below one bound, and the result from the numbers drawn, in order. -/
def sequence {α : Type} (bound : Nat) (positive : 0 < bound) :
    (n : Nat) → ((Fin n → Fin bound) → α) → Drawing α
  | 0, f => .done (f Fin.elim0)
  | n + 1, f => .draw bound positive fun i =>
    sequence bound positive n fun others => f (Fin.cons i others)

variable {α β : Type} {bound : Nat} {positive : 0 < bound}

theorem sequence_bind (n : Nat) (f : (Fin n → Fin bound) → α) (g : α → β) :
    (sequence bound positive n f).bind (fun result => .done (g result))
      = sequence bound positive n fun numbers => g (f numbers) := by
  induction n with
  | zero => rfl
  | succ n ih =>
    simp only [sequence, bind]
    congr 1
    funext i
    exact ih _

/-- Repeating a single draw makes a sequence of draws. -/
theorem replicate_single (n : Nat) (f : Fin bound → α) :
    replicate n (single bound positive f)
      = sequence bound positive n fun numbers => List.ofFn fun k => f (numbers k) := by
  induction n with
  | zero => rfl
  | succ n ih =>
    simp only [replicate, single, bind, sequence] at ih ⊢
    rw [ih]
    congr 1
    funext i
    rw [sequence_bind]
    simp only [List.ofFn_succ, Fin.cons_zero, Fin.cons_succ]

/-- A run of a sequence makes its draws one by one from the source. -/
theorem run_sequence (source : Source) (taken n : Nat) (f : (Fin n → Fin bound) → α) :
    run source taken (sequence bound positive n f)
      = (List.ofFn fun k : Fin n => ⟨bound, reduce bound positive (source (taken + k))⟩,
          f fun k => reduce bound positive (source (taken + k))) := by
  induction n generalizing taken with
  | zero =>
    simp only [sequence, run, List.ofFn_zero, Prod.mk.injEq, true_and]
    exact congrArg f (Subsingleton.elim _ _)
  | succ n ih =>
    have hshift : ∀ k : Fin n, taken + 1 + (k : Nat) = taken + (k.succ : Nat) := fun k => by
      rw [Fin.val_succ]
      omega
    simp only [sequence, run, ih, hshift, List.ofFn_succ]
    refine congrArg (Prod.mk _) (congrArg f (funext fun k => ?_))
    cases k using Fin.cases <;> rfl

end Drawing

/-! ## The alphabet -/

namespace Sampling

open Formulary.Interval (laid)

/-- The punctuation of ASCII. -/
def punctuation : Text :=
  "!\"#$%&'()*+,-./:;<=>?@[\\]^_`\x7b|\x7d~".toList

/-- The characters of the enabled classes: digits, letters and punctuation, all of ASCII. -/
def CharacterClasses.Allows (classes : CharacterClasses) (c : Char) : Prop :=
  classes.numbers = true ∧ c.isDigit = true ∨ classes.letters = true ∧ c.isAlpha = true ∨
    classes.special = true ∧ c ∈ punctuation

variable {classes : CharacterClasses} {c : Char}

theorem isAlpha_iff_toNat :
    c.isAlpha = true ↔ 65 ≤ c.toNat ∧ c.toNat ≤ 90 ∨ 97 ≤ c.toNat ∧ c.toNat ≤ 122 := by
  simp only [Char.isAlpha, Char.isUpper, Char.isLower, Bool.or_eq_true, Bool.and_eq_true,
    decide_eq_true_eq, ge_iff_le, UInt32.le_iff_toNat_le]
  rfl

theorem mem_punctuation_iff_toNat :
    c ∈ punctuation ↔ 33 ≤ c.toNat ∧ c.toNat ≤ 47 ∨ 58 ≤ c.toNat ∧ c.toNat ≤ 64 ∨
      91 ≤ c.toNat ∧ c.toNat ≤ 96 ∨ 123 ≤ c.toNat ∧ c.toNat ≤ 126 := by
  have hcodes : punctuation.map Char.toNat
      = List.range' 33 15 ++ List.range' 58 7 ++ List.range' 91 6 ++ List.range' 123 4 := by
    decide
  rw [← List.mem_map_of_injective fun _ _ => Char.toNat_inj.mp, hcodes]
  simp only [List.mem_append, List.mem_range'_1]
  omega

/-- A character is allowed when its code point lies in one of the ranges. -/
theorem allows_iff : classes.Allows c ↔ ∃ x ∈ classes.ranges, (c.toNat : Int) ∈ x := by
  rw [CharacterClasses.Allows, Char.isDigit_iff_toNat, isAlpha_iff_toNat, mem_punctuation_iff_toNat]
  obtain ⟨numbers, letters, special⟩ := classes
  cases numbers <;> cases letters <;> cases special <;>
    simp [CharacterClasses.ranges, Interval.ofBounds, Interval.mem_iff] <;> omega

/-- The ranges do not overlap, so no code point stands twice in the list. -/
theorem nodup_laid_ranges (classes : CharacterClasses) : (laid classes.ranges).Nodup := by
  have hapart : classes.ranges.Pairwise fun x y => x.high < y.low ∨ y.high < x.low := by
    obtain ⟨numbers, letters, special⟩ := classes
    cases numbers <;> cases letters <;> cases special <;> decide
  refine List.nodup_flatMap.mpr ⟨fun x _ => x.nodup_values, hapart.imp ?_⟩
  intro x y hxy v hx hy
  rw [Interval.mem_values, Interval.mem_iff] at hx hy
  omega

/-- The character at a position in the ranges. -/
def letterAt (classes : CharacterClasses) (i : Fin (laid classes.ranges).length) : Char :=
  Char.ofNat ((laid classes.ranges).get i).toNat

/-- Code points of the ranges are those of characters. -/
theorem toNat_letterAt (classes : CharacterClasses) (i : Fin (laid classes.ranges).length) :
    ((letterAt classes i).toNat : Int) = (laid classes.ranges).get i := by
  have hsmall : ∀ x ∈ classes.ranges, 0 ≤ x.low ∧ x.high ≤ 126 := by
    obtain ⟨numbers, letters, special⟩ := classes
    cases numbers <;> cases letters <;> cases special <;> decide
  obtain ⟨x, hx, hcode⟩ := Interval.mem_laid.mp (List.get_mem _ i)
  have hbounds := hsmall x hx
  rw [Interval.mem_iff] at hcode
  have hvalid : ((laid classes.ranges).get i).toNat.isValidChar := .inl (by omega)
  rw [letterAt, Char.toNat_ofNat, if_pos hvalid]
  omega

/-- The positions in the ranges number the characters of the alphabet. -/
theorem bijOn_letterAt (classes : CharacterClasses) :
    Set.BijOn (letterAt classes) Set.univ {c | classes.Allows c} := by
  refine ⟨fun i _ => ?_, fun i _ j _ hij => ?_, fun c hc => ?_⟩
  · show classes.Allows (letterAt classes i)
    rw [allows_iff, toNat_letterAt, ← Interval.mem_laid]
    exact List.get_mem _ i
  · refine (nodup_laid_ranges classes).injective_get ?_
    rw [← toNat_letterAt, ← toNat_letterAt, hij]
  · obtain ⟨i, hi⟩ := List.get_of_mem (Interval.mem_laid.mpr (allows_iff.mp hc))
    refine ⟨i, Set.mem_univ i, ?_⟩
    rw [letterAt, hi, Int.toNat_natCast, Char.ofNat_toNat]

/-! ## Random texts -/

/-- A text is made by a sequence of draws, a character for each. -/
theorem text_eq (hne : classes.ranges ≠ []) (n : Nat) :
    ∃ positive : 0 < (laid classes.ranges).length,
      text n classes = .ok (.sequence _ positive n fun numbers =>
        List.ofFn fun k => letterAt classes (numbers k)) := by
  obtain ⟨positive, hlayout⟩ := fromLayout_eq hne
  refine ⟨positive, ?_⟩
  rw [text, hlayout]
  simp only [Int.toNat_natCast, Drawing.replicate_single]
  refine congrArg Except.ok ((Drawing.sequence_bind n _ _).trans ?_)
  simp only [List.map_ofFn]
  rfl

/-- When numbers stand for the characters of an alphabet one to one, sequences of numbers stand for
the texts over it one to one. -/
theorem bijOn_ofFn {count : Nat} {letter : Fin count → Char} {alphabet : Set Char}
    (h : Set.BijOn letter Set.univ alphabet) (n : Nat) :
    Set.BijOn (fun numbers : Fin n → Fin count => List.ofFn fun k => letter (numbers k)) Set.univ
      {t : Text | t.length = n ∧ ∀ c ∈ t, c ∈ alphabet} := by
  refine ⟨fun numbers _ => ?_, fun numbers _ others _ hsame => ?_, fun t ht => ?_⟩
  · refine ⟨List.length_ofFn, ?_⟩
    rw [List.forall_mem_ofFn_iff]
    exact fun k => h.mapsTo (Set.mem_univ _)
  · have hletters := List.ofFn_injective hsame
    exact funext fun k => h.injOn (Set.mem_univ _) (Set.mem_univ _) (congrFun hletters k)
  · obtain ⟨rfl, hletters⟩ := ht
    choose numbers _ hnumbers using fun k : Fin t.length => h.surjOn (hletters _ (t.get_mem k))
    refine ⟨numbers, Set.mem_univ _, ?_⟩
    simp only [hnumbers, List.ofFn_get]

/-- **A random text is uniform.** With at least one class enabled, let `count` be the number of
characters in the alphabet. A text of length `n` is made by exactly `n` draws, all below `count`,
and the sequences of `n` numbers below `count` correspond one to one to the texts of that length
over the alphabet. -/
theorem text_uniform (classes : CharacterClasses) (n : Nat)
    (henabled : classes.numbers = true ∨ classes.letters = true ∨ classes.special = true) :
    ∃ (count : Nat) (positive : 0 < count) (letter : Fin count → Char),
      Set.BijOn letter Set.univ {c | classes.Allows c} ∧
      text n classes = .ok (.sequence count positive n fun numbers =>
        List.ofFn fun k => letter (numbers k)) ∧
      Set.BijOn (fun numbers : Fin n → Fin count => List.ofFn fun k => letter (numbers k)) Set.univ
        {t : Text | t.length = n ∧ ∀ c ∈ t, classes.Allows c} ∧
      ∀ source taken, ∃ numbers : Fin n → Fin count,
        (text n classes).map (Drawing.run source taken)
          = .ok (List.ofFn fun k => ⟨count, numbers k⟩, List.ofFn fun k => letter (numbers k)) := by
  have hne : classes.ranges ≠ [] := by
    rcases henabled with h | h | h <;> simp [CharacterClasses.ranges, h]
  obtain ⟨positive, htext⟩ := text_eq hne n
  have hletters := bijOn_letterAt classes
  refine ⟨_, positive, letterAt classes, hletters, htext, bijOn_ofFn hletters n, ?_⟩
  intro source taken
  refine ⟨fun k => Drawing.reduce _ positive (source (taken + k)), ?_⟩
  rw [htext]
  exact congrArg Except.ok (Drawing.run_sequence source taken n _)

/-- Over digits and punctuation, one pair of numbers makes `7!`, and none a text with a letter. -/
theorem text_uniform_pair :
    let classes : CharacterClasses := ⟨true, false, true⟩
    (classes.numbers = true ∨ classes.letters = true ∨ classes.special = true) ∧
      ∃ (count : Nat) (positive : 0 < count) (letter : Fin count → Char),
        text 2 classes = .ok (.sequence count positive 2 fun numbers =>
          List.ofFn fun k => letter (numbers k)) ∧
        (∃! numbers : Fin 2 → Fin count, List.ofFn (fun k => letter (numbers k)) = ['7', '!']) ∧
        ∀ numbers : Fin 2 → Fin count, List.ofFn (fun k => letter (numbers k)) ≠ ['7', 'a'] := by
  intro classes
  have henabled : classes.numbers = true ∨ classes.letters = true ∨ classes.special = true :=
    .inl rfl
  obtain ⟨count, positive, letter, -, htext, hbijective, -⟩ := text_uniform classes 2 henabled
  have hallowed : ∀ c ∈ ['7', '!'], classes.Allows c := by
    intro c hc
    rcases List.mem_pair.mp hc with rfl | rfl
    · exact .inl ⟨rfl, rfl⟩
    · exact .inr (.inr ⟨rfl, by decide⟩)
  have hforbidden : ¬classes.Allows 'a' := by
    rintro (⟨-, h⟩ | ⟨h, -⟩ | ⟨-, h⟩)
    · cases h
    · cases h
    · exact absurd h (by decide)
  refine ⟨henabled, count, positive, letter, htext, ?_, fun numbers hsame => hforbidden ?_⟩
  · obtain ⟨numbers, -, hnumbers⟩ := hbijective.surjOn ⟨rfl, hallowed⟩
    refine ⟨numbers, hnumbers, fun others hothers => ?_⟩
    exact hbijective.injOn (Set.mem_univ _) (Set.mem_univ _) (hothers.trans hnumbers.symm)
  · have hmaps := (hbijective.mapsTo (Set.mem_univ numbers)).2
    simp only [hsame] at hmaps
    exact hmaps 'a' (by decide)

end Sampling

end Formulary
