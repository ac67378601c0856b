/-
Formulary.Proofs.RangeLayout — sampling from ranges that are laid end to end.

Without merging, ranges are laid end to end: as they are given, or sorted by their bounds. One
number is drawn below the number of values, and it is the position of the value that comes out. So
an integer comes out for as many numbers as there are ranges that hold it, and sorting changes which
numbers these are but not how many.

The value at a position can be found without writing any values out: go through the intervals, and
take the values of each interval that is passed off the position. This search could run out of
intervals. It does so exactly for positions behind the last value, and none of these is ever drawn.
-/
import Formulary.Proofs.OverlapComponents

namespace Formulary

namespace Interval

/-! ## Searching -/

/-- Go through intervals for the value at a position. It lies in the first interval that has more
values than the position says; an interval that is passed takes its values off the position. -/
def seek : List Interval → Int → Option Int
  | [], _ => none
  | x :: rest, position =>
    let count := x.high - x.low + 1
    if position < count then some (x.low + position) else seek rest (position - count)

theorem size_eq (x : Interval) : (x.size : Int) = x.high - x.low + 1 := by
  have := x.low_le_high
  unfold size
  omega

/-- The search finds what stands at the position among the values written out, and runs out of
intervals where nothing stands there. -/
theorem seek_eq_getElem? (xs : List Interval) (i : Nat) : seek xs i = (laid xs)[i]? := by
  induction xs generalizing i with
  | nil => rfl
  | cons x rest ih =>
    simp only [seek, ← size_eq, laid_cons]
    by_cases hi : i < x.size
    · rw [if_pos (by omega), List.getElem?_append_left (by rwa [length_values])]
      simp [values, hi]
    · have hrest : (i : Int) - x.size = ((i - x.size : Nat) : Int) := by omega
      rw [if_neg (by omega), List.getElem?_append_right (by rw [length_values]; omega),
        length_values, hrest, ih]

/-! ## How often a value stands in the list -/

variable {xs ys : List Interval}

theorem count_values (x : Interval) (v : Int) :
    x.values.count v = if x.low ≤ v ∧ v ≤ x.high then 1 else 0 := by
  simp only [x.nodup_values.count, mem_values, mem_iff]

/-- An integer stands in the list once for each interval that holds it. -/
theorem count_laid (xs : List Interval) (v : Int) :
    (laid xs).count v = xs.countP fun x => x.low ≤ v ∧ v ≤ x.high := by
  induction xs with
  | nil => rfl
  | cons x rest ih =>
    simp only [laid_cons, List.count_append, count_values, ih, List.countP_cons, decide_eq_true_eq]
    exact Nat.add_comm _ _

theorem laid_perm (h : ys.Perm xs) : (laid ys).Perm (laid xs) :=
  h.flatMap_right values

/-- A value stands at as many positions of a list as it has occurrences there. -/
theorem card_filter_get_eq (l : List Int) (v : Int) :
    (Finset.univ.filter fun i => l.get i = v).card = l.count v := by
  conv_rhs => rw [← List.map_get_finRange l]
  rw [List.count, List.countP_map, List.countP_eq_length_filter]
  rfl

end Interval

namespace Sampling

open Formulary.Interval (laid sorted seek ofValueList)

variable {ranges : List Value} {xs ys : List Interval}

/-! ## Drawing a position -/

/-- A value of intervals laid end to end, by a position that is drawn and a search for it. -/
def fromPosition (xs : List Interval) : Except SamplingError (Drawing (Option Int)) := do
  let position ← between 0 (Interval.total xs - 1)
  pure (seek xs <$> position)

theorem single_congr {α : Type} {m n : Nat} {hm : 0 < m} {hn : 0 < n} {f : Fin m → α}
    {g : Fin n → α} (h : m = n) (hfg : ∀ i, f i = g (i.cast h)) :
    Drawing.single m hm f = Drawing.single n hn g := by
  subst h
  exact congrArg _ (funext hfg)

/-- Drawing from intervals is drawing a position in the list of their values. -/
theorem fromLayout_eq (hne : xs ≠ []) :
    ∃ positive : 0 < (laid xs).length,
      fromLayout xs = .ok (.single (laid xs).length positive (laid xs).get) := by
  have hlength := Interval.length_laid xs
  have positive : 0 < Interval.total xs :=
    Nat.pos_of_ne_zero fun hzero => hne (Interval.total_eq_zero.mp hzero)
  refine ⟨hlength ▸ positive, ?_⟩
  rw [fromLayout, dif_pos positive]
  refine congrArg Except.ok (single_congr hlength.symm fun i => ?_)
  exact Interval.valueAt_eq_get xs i i.isLt

/-- The search for the position that is drawn never runs out of intervals. -/
theorem fromPosition_eq (positive : 0 < (laid xs).length) :
    fromPosition xs = .ok (some <$> .single (laid xs).length positive (laid xs).get) := by
  have hlength := Interval.length_laid xs
  have hordered : (0 : Int) ≤ Interval.total xs - 1 := by omega
  simp only [fromPosition, between, dif_pos hordered]
  refine congrArg Except.ok (single_congr (by omega) fun i => ?_)
  change seek xs (0 + (i : Nat)) = some _
  rw [zero_add, Interval.seek_eq_getElem?]
  exact List.getElem?_eq_getElem _

/-! ## Ranges as they are written -/

/-- A range as it is written stands for the interval between its bounds. -/
def Denotes (range : Value) (x : Interval) : Prop :=
  ∃ a b, Bounds range a b ∧ x.low = min a b ∧ x.high = max a b

theorem ofValue_of_denotes {range : Value} {x : Interval} (h : Denotes range x) :
    Interval.ofValue range = .ok x := by
  obtain ⟨a, b, hbounds, hlow, hhigh⟩ := h
  have hx : Interval.ofBounds a b = x := by
    rw [← low_ofBounds] at hlow
    rw [← high_ofBounds] at hhigh
    cases x
    simp only at hlow hhigh
    subst hlow hhigh
    rfl
  rw [ofValue_of_bounds hbounds, hx]

/-- Ranges are read one by one, in the order in which they are given. -/
theorem ofValueList_of_denotes (h : List.Forall₂ Denotes ranges xs) :
    ofValueList ranges = .ok xs := by
  induction h with
  | nil => rfl
  | cons hrange _ ih =>
    rw [ofValueList, ofValue_of_denotes hrange, ih]
    rfl

theorem exists_denotes (h : AreRanges ranges) : ∃ xs, List.Forall₂ Denotes ranges xs := by
  induction ranges with
  | nil => exact ⟨[], .nil⟩
  | cons range rest ih =>
    obtain ⟨⟨a, b, hbounds⟩, hrest⟩ := List.forall_mem_cons.mp h
    obtain ⟨xs, hdenotes⟩ := ih hrest
    exact ⟨_, .cons ⟨a, b, hbounds, low_ofBounds a b, high_ofBounds a b⟩ hdenotes⟩

/-! ## The modes that lay ranges end to end -/

/-- Sampling in a mode from ranges, which stand for the intervals `xs`, with the values laid out as
those of `ys`. -/
structure LaysOut (mode : SamplingMode) (ranges : List Value) (xs ys : List Interval) : Prop where
  /-- There is a value. -/
  positive : 0 < (laid ys).length
  /-- One number is drawn below the number of values, and it is the position of the value. -/
  program : fromValues mode.name.toList ranges
    = .ok (.single (laid ys).length positive (laid ys).get)
  /-- The search for the position finds the value. -/
  found : fromPosition ys = .ok (some <$> .single (laid ys).length positive (laid ys).get)
  /-- An integer stands at as many positions as there are ranges that hold it. -/
  hits : ∀ v, (Finset.univ.filter fun i => (laid ys).get i = v).card
    = xs.countP fun x => x.low ≤ v ∧ v ≤ x.high

theorem laysOut {mode : SamplingMode} (hmode : SamplingMode.ofName? mode.name.toList = some mode)
    (hread : ofValueList ranges = .ok xs) (hne : xs ≠ []) (harranged : (mode.arrange xs).Perm xs) :
    LaysOut mode ranges xs (mode.arrange xs) := by
  have hne' : mode.arrange xs ≠ [] := fun hnil => hne (hnil ▸ harranged).nil_eq.symm
  obtain ⟨positive, hprogram⟩ := fromLayout_eq hne'
  refine ⟨positive, ?_, fromPosition_eq positive, fun v => ?_⟩
  · rw [fromValues, hmode]
    simp only [hread]
    exact hprogram
  · rw [Interval.card_filter_get_eq, Interval.count_laid]
    exact harranged.countP_eq _

/-- **Ranges are laid end to end.** Ranges of integers, at least one of them, stand for the
intervals between their bounds. In the first mode the values of these are laid out in the given
order, in the second one in the order of their bounds. In both modes a position is drawn, the search
for it does not fail, and every integer stands at as many positions as there are ranges that hold
it; so the values are the same, each as often. -/
theorem fromValues_laid (hne : ranges ≠ []) (hranges : AreRanges ranges) :
    ∃ xs ys : List Interval, List.Forall₂ Denotes ranges xs ∧ ys.Perm xs ∧
      ys.Pairwise (fun x y => x.low < y.low ∨ x.low = y.low ∧ x.high ≤ y.high) ∧
      LaysOut .default ranges xs xs ∧ LaysOut .sort ranges xs ys ∧ (laid ys).Perm (laid xs) := by
  obtain ⟨xs, hdenotes⟩ := exists_denotes hranges
  have hread := ofValueList_of_denotes hdenotes
  have hxs : xs ≠ [] := by
    rintro rfl
    exact hne (List.forall₂_nil_right_iff.mp hdenotes)
  have hperm : (sorted xs).Perm xs := List.mergeSort_perm xs _
  exact ⟨xs, sorted xs, hdenotes, hperm, Interval.pairwise_sorted xs,
    laysOut rfl hread hxs (.refl xs), laysOut rfl hread hxs hperm, Interval.laid_perm hperm⟩

/-- A record and a pair with reversed bounds that overlaps it: in the given order the record comes
first, in the sorted order the pair does. -/
theorem fromValues_laid_overlapping :
    let ranges : List Value :=
      [.record [("min".toList, .int 4), ("max".toList, .int 7)], .list [.int 5, .int 2]]
    let record : Interval := ⟨4, 7, by decide⟩
    let pair : Interval := ⟨2, 5, by decide⟩
    ranges ≠ [] ∧ AreRanges ranges ∧ LaysOut .default ranges [record, pair] [record, pair] ∧
      LaysOut .sort ranges [record, pair] [pair, record] := by
  intro ranges record pair
  have hne : ranges ≠ [] := List.cons_ne_nil _ _
  have hranges : AreRanges ranges := by
    intro range hrange
    simp only [ranges, List.mem_cons, List.not_mem_nil, or_false] at hrange
    rcases hrange with rfl | rfl
    · exact ⟨4, 7, .record rfl rfl⟩
    · exact ⟨5, 2, .pair 5 2⟩
  obtain ⟨xs, ys, hdenotes, hperm, hordered, hdefault, hsort, -⟩ := fromValues_laid hne hranges
  have hread : ofValueList ranges = .ok [record, pair] := rfl
  obtain rfl : [record, pair] = xs :=
    Except.ok.inj (hread.symm.trans (ofValueList_of_denotes hdenotes))
  obtain rfl | rfl := List.perm_pair.mp hperm
  · exact absurd (List.rel_of_pairwise_cons hordered List.mem_cons_self) (by decide)
  · exact ⟨hne, hranges, hdefault, hsort⟩

end Sampling

end Formulary
