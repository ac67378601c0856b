/-
Formulary.Proofs.OverlapComponents — merging gives the overlap components, and nothing else does.

Ranges overlap when they have an integer in common, and a component is what chains of overlapping
ranges hold together. Two neighbouring integers of a component therefore lie in one of the ranges:
ranges that merely stand side by side, as up to 3 and from 4, are never joined. `AreComponents` says
this about a list of intervals without following any chain, and one list at most has these laws. So
what merging gives does not depend on how it goes about it.
-/
import Formulary.Proofs.UniformSampling

namespace Formulary

namespace Interval

variable {x y z current : Interval} {xs out others rest : List Interval} {v : Int}

/-! ## Components of intervals -/

/-- Every integer of the second interval lies in the first one. -/
def Encloses (y x : Interval) : Prop :=
  y.low ≤ x.low ∧ x.high ≤ y.high

theorem Encloses.mem (h : y.Encloses x) (hv : v ∈ x) : v ∈ y :=
  ⟨Int.le_trans h.1 hv.1, Int.le_trans hv.2 h.2⟩

/-- The laws of the overlap components of intervals. -/
structure AreComponents (xs out : List Interval) : Prop where
  /-- Each component ends before the next one begins. -/
  apart : Apart out
  /-- The components hold the integers that the intervals hold. -/
  covered : ∀ v, (∃ y ∈ out, v ∈ y) ↔ ∃ x ∈ xs, v ∈ x
  /-- No interval is cut. -/
  enclosed : ∀ x ∈ xs, ∃ y ∈ out, y.Encloses x
  /-- Neighbours in a component lie together in one of the intervals. -/
  joined : ∀ y ∈ out, ∀ v, v ∈ y → v + 1 ∈ y → ∃ x ∈ xs, v ∈ x ∧ v + 1 ∈ x

/-- Merging cuts no interval. -/
theorem exists_encloses_mergeInto (h : InOrder (current :: rest)) (hx : x ∈ current :: rest) :
    ∃ y ∈ mergeInto current rest, y.Encloses x := by
  induction rest generalizing current x with
  | nil => exact ⟨x, hx, Int.le_refl _, Int.le_refl _⟩
  | cons next rest ih =>
    obtain ⟨hcurrent, hrest⟩ := List.pairwise_cons.mp h
    have hlow : current.low ≤ next.low := hcurrent next List.mem_cons_self
    rw [mergeInto]
    split
    case isTrue =>
      obtain ⟨y, hy, hbegins, hends⟩ := ih h.extend List.mem_cons_self
      simp only [extend] at hbegins hends
      rcases List.mem_cons.mp hx with rfl | hx
      · exact ⟨y, hy, hbegins, by omega⟩
      · rcases List.mem_cons.mp hx with rfl | hx
        · exact ⟨y, hy, by omega, by omega⟩
        · exact ih h.extend (List.mem_cons_of_mem _ hx)
    case isFalse =>
      rcases List.mem_cons.mp hx with rfl | hx
      · exact ⟨x, List.mem_cons_self, Int.le_refl _, Int.le_refl _⟩
      · obtain ⟨y, hy, hencloses⟩ := ih hrest hx
        exact ⟨y, List.mem_cons_of_mem _ hy, hencloses⟩

/-- Merging joins overlapping intervals only. -/
theorem exists_mem_of_mem_mergeInto (h : InOrder (current :: rest))
    (hy : y ∈ mergeInto current rest) (hv : v ∈ y) (hnext : v + 1 ∈ y) :
    ∃ x ∈ current :: rest, v ∈ x ∧ v + 1 ∈ x := by
  induction rest generalizing current with
  | nil =>
    obtain rfl := List.mem_singleton.mp hy
    exact ⟨y, List.mem_cons_self, hv, hnext⟩
  | cons next rest ih =>
    obtain ⟨hcurrent, hrest⟩ := List.pairwise_cons.mp h
    rw [mergeInto] at hy
    split at hy
    case isTrue hinside =>
      obtain ⟨x, hx, hboth⟩ := ih h.extend hy
      rcases List.mem_cons.mp hx with rfl | hx
      · -- Up to the end of `current` both lie in it; behind that, `next` has begun.
        simp only [mem_iff, extend] at hboth
        by_cases hend : v + 1 ≤ current.high
        · exact ⟨current, List.mem_cons_self, by simp only [mem_iff]; omega⟩
        · refine ⟨next, List.mem_cons_of_mem _ List.mem_cons_self, ?_⟩
          simp only [mem_iff]
          omega
      · exact ⟨x, List.mem_cons_of_mem _ (List.mem_cons_of_mem _ hx), hboth⟩
    case isFalse =>
      rcases List.mem_cons.mp hy with rfl | hy
      · exact ⟨y, List.mem_cons_self, hv, hnext⟩
      · obtain ⟨x, hx, hboth⟩ := ih hrest hy
        exact ⟨x, List.mem_cons_of_mem _ hx, hboth⟩

/-- Merged intervals are the overlap components. -/
theorem areComponents_merged (xs : List Interval) : AreComponents xs (merged xs) := by
  have hsorted := inOrder_sorted xs
  have hmem : ∀ x, x ∈ sorted xs ↔ x ∈ xs := fun _ => mem_sorted
  refine ⟨apart_merged xs, fun v => exists_mem_merged, ?_, ?_⟩
  · intro x hx
    rw [← hmem] at hx
    rw [merged]
    split
    case h_1 hnil =>
      rw [hnil] at hx
      exact absurd hx List.not_mem_nil
    case h_2 first rest hcons =>
      rw [hcons] at hsorted hx
      exact exists_encloses_mergeInto hsorted hx
  · intro y hy v hv hnext
    simp only [← hmem]
    rw [merged] at hy
    split at hy
    case h_1 => exact absurd hy List.not_mem_nil
    case h_2 first rest hcons =>
      rw [hcons] at hsorted ⊢
      exact exists_mem_of_mem_mergeInto hsorted hy hv hnext

/-! ## The laws determine the components -/

/-- Of intervals that are apart, one at most holds an integer. -/
theorem Apart.eq_of_mem (h : Apart out) (hy : y ∈ out) (hz : z ∈ out) (hvy : v ∈ y)
    (hvz : v ∈ z) : y = z := by
  obtain ⟨i, hi, rfl⟩ := List.getElem_of_mem hy
  obtain ⟨j, hj, rfl⟩ := List.getElem_of_mem hz
  have hordered := List.pairwise_iff_getElem.mp h
  rw [mem_iff] at hvy hvz
  rcases Nat.lt_trichotomy i j with hij | rfl | hji
  · have := hordered i j hi hj hij
    omega
  · rfl
  · have := hordered j i hj hi hji
    omega

namespace AreComponents

/-- Components with an integer in common agree from there upwards. -/
theorem mem_of_le (h : AreComponents xs out) (hothers : AreComponents xs others) (hy : y ∈ out)
    (hz : z ∈ others) (hvy : v ∈ y) (hvz : v ∈ z) {w : Int} (hle : v ≤ w) (hw : w ∈ y) :
    w ∈ z := by
  induction w, hle using Int.leInduction with
  | base => exact hvz
  | succ w hle ih =>
    -- The step from `w` on lies in one of the intervals, and that is not cut.
    have hwy : w ∈ y := by
      rw [mem_iff] at *
      omega
    obtain ⟨x, hx, hwx, hnext⟩ := h.joined y hy w hwy hw
    obtain ⟨z', hz', hencloses⟩ := hothers.enclosed x hx
    obtain rfl := hothers.apart.eq_of_mem hz' hz (hencloses.mem hwx) (ih hwy)
    exact hencloses.mem hnext

/-- A component by the laws is a component of every other list with them. -/
theorem mem_of_mem (h : AreComponents xs out) (hothers : AreComponents xs others) (hy : y ∈ out) :
    y ∈ others := by
  have hlow : ∀ u : Interval, u.low ∈ u := fun u => ⟨Int.le_refl _, u.low_le_high⟩
  have hhigh : ∀ u : Interval, u.high ∈ u := fun u => ⟨u.low_le_high, Int.le_refl _⟩
  obtain ⟨z, hz, hyz⟩ :=
    (hothers.covered y.low).mpr ((h.covered y.low).mp ⟨y, hy, hlow y⟩)
  obtain ⟨y', hy', hzy'⟩ :=
    (h.covered z.low).mpr ((hothers.covered z.low).mp ⟨z, hz, hlow z⟩)
  -- From the lower end of `z` upwards the two agree, and `y` begins in there.
  have hyy' : y.low ∈ y' := hothers.mem_of_le h hz hy' (hlow z) hzy' hyz.1 hyz
  obtain rfl := h.apart.eq_of_mem hy' hy hyy' (hlow y)
  have hup : y'.high ∈ z := h.mem_of_le hothers hy hz (hlow y') hyz y'.low_le_high (hhigh y')
  have hdown : z.high ∈ y' := hothers.mem_of_le h hz hy (hlow z) hzy' z.low_le_high (hhigh z)
  have heq : y' = z := by
    rw [mem_iff] at *
    have hbounds : y'.low = z.low ∧ y'.high = z.high := by omega
    cases y'
    cases z
    simpa using hbounds
  exact heq ▸ hz

/-- Intervals have one list of components. -/
theorem unique (h : AreComponents xs out) (hothers : AreComponents xs others) : out = others := by
  have hnodup : ∀ {l : List Interval}, Apart l → l.Nodup := by
    intro l hl
    refine hl.imp ?_
    rintro x _ hlt rfl
    exact absurd x.low_le_high (Int.not_le.mpr hlt)
  have hperm : out.Perm others := (List.perm_ext_iff_of_nodup (hnodup h.apart)
    (hnodup hothers.apart)).mpr fun y => ⟨h.mem_of_mem hothers, hothers.mem_of_mem h⟩
  refine hperm.eq_of_pairwise ?_ h.apart hothers.apart
  intro x y _ _ hxy hyx
  have := x.low_le_high
  have := y.low_le_high
  omega

end AreComponents

end Interval

/-! ## Ranges as they are written -/

namespace Sampling

open Formulary.Interval (AreComponents ofBounds ofValueList merged)

variable {ranges : List Value} {xs out : List Interval}

/-- The laws of the overlap components of ranges, by the bounds with which these are written. -/
structure AreOverlapComponents (ranges : List Value) (out : List Interval) : Prop where
  /-- The bounds of a component are in order. -/
  ordered : ∀ y ∈ out, y.low ≤ y.high
  /-- Each component ends before the next one begins. -/
  apart : out.Pairwise fun y z => y.high < z.low
  /-- The components hold exactly the covered integers. -/
  covered : ∀ v, (∃ y ∈ out, v ∈ y) ↔ Covers ranges v
  /-- No range is cut. -/
  enclosed : ∀ range ∈ ranges, ∀ a b, Bounds range a b →
    ∃ y ∈ out, y.low ≤ min a b ∧ max a b ≤ y.high
  /-- Neighbours in a component lie together in a single range. -/
  joined : ∀ y ∈ out, ∀ v, v ∈ y → v + 1 ∈ y →
    ∃ range ∈ ranges, ∃ a b, Bounds range a b ∧ min a b ≤ v ∧ v + 1 ≤ max a b

theorem low_ofBounds (a b : Int) : (ofBounds a b).low = min a b := by
  rw [ofBounds]
  split <;> simp only <;> omega

theorem high_ofBounds (a b : Int) : (ofBounds a b).high = max a b := by
  rw [ofBounds]
  split <;> simp only <;> omega

/-- The components of ranges are those of the intervals that they are read as. -/
theorem areOverlapComponents_iff (hranges : AreRanges ranges)
    (hread : ofValueList ranges = .ok xs) :
    AreOverlapComponents ranges out ↔ AreComponents xs out := by
  obtain ⟨ys, hys, -, hmem⟩ := exists_intervals hranges
  obtain ⟨zs, hzs, -, hcovers⟩ := exists_ofValueList hranges
  cases hread.symm.trans hys
  cases hread.symm.trans hzs
  have hbetween : ∀ v a b, v ∈ ofBounds a b ∧ v + 1 ∈ ofBounds a b ↔
      min a b ≤ v ∧ v + 1 ≤ max a b := by
    intro v a b
    rw [mem_ofBounds, mem_ofBounds]
    omega
  constructor
  · intro h
    refine ⟨h.apart, fun v => (h.covered v).trans (hcovers v).symm, fun x hx => ?_,
      fun y hy v hv hnext => ?_⟩
    · obtain ⟨range, hrange, a, b, hbounds, rfl⟩ := (hmem x).mp hx
      obtain ⟨y, hy, hencloses⟩ := h.enclosed range hrange a b hbounds
      rw [← low_ofBounds, ← high_ofBounds] at hencloses
      exact ⟨y, hy, hencloses⟩
    · obtain ⟨range, hrange, a, b, hbounds, hboth⟩ := h.joined y hy v hv hnext
      exact ⟨ofBounds a b, (hmem _).mpr ⟨range, hrange, a, b, hbounds, rfl⟩,
        (hbetween v a b).mpr hboth⟩
  · intro h
    refine ⟨fun y _ => y.low_le_high, h.apart, fun v => (h.covered v).trans (hcovers v),
      fun range hrange a b hbounds => ?_, fun y hy v hv hnext => ?_⟩
    · rw [← low_ofBounds, ← high_ofBounds]
      exact h.enclosed _ ((hmem _).mpr ⟨range, hrange, a, b, hbounds, rfl⟩)
    · obtain ⟨x, hx, hboth⟩ := h.joined y hy v hv hnext
      obtain ⟨range, hrange, a, b, hbounds, rfl⟩ := (hmem x).mp hx
      exact ⟨range, hrange, a, b, hbounds, (hbetween v a b).mp hboth⟩

/-- **Merging computes the overlap components.** Ranges of integers, in any order and with bounds in
any order, are read, and what merging gives has the laws of their overlap components. No other list
of intervals has these laws. -/
theorem overlapComponents_merged (hranges : AreRanges ranges) :
    ∃ xs, ofValueList ranges = .ok xs ∧
      AreOverlapComponents ranges (merged xs) ∧
      ∀ out, AreOverlapComponents ranges out → out = merged xs := by
  obtain ⟨xs, hread, -⟩ := exists_ofValueList hranges
  refine ⟨xs, hread, ?_, fun out hout => ?_⟩
  · exact (areOverlapComponents_iff hranges hread).mpr (Interval.areComponents_merged xs)
  · exact ((areOverlapComponents_iff hranges hread).mp hout).unique
      (Interval.areComponents_merged xs)

/-- A pair with reversed bounds, a record that begins right behind it, a range that overlaps the
record and one that lies in there: the first two are not joined. -/
theorem overlapComponents_merged_touching :
    let ranges : List Value :=
      [.list [.int 3, .int 1], .record [("min".toList, .int 4), ("max".toList, .int 6)],
        .list [.int 5, .int 9], .list [.int 7, .int 7]]
    AreRanges ranges ∧
      AreOverlapComponents ranges [⟨1, 3, by decide⟩, ⟨4, 9, by decide⟩] := by
  intro ranges
  have hranges : AreRanges ranges := by
    intro range hrange
    simp only [ranges, List.mem_cons, List.not_mem_nil, or_false] at hrange
    rcases hrange with rfl | rfl | rfl | rfl
    · exact ⟨3, 1, .pair 3 1⟩
    · exact ⟨4, 6, .record rfl rfl⟩
    · exact ⟨5, 9, .pair 5 9⟩
    · exact ⟨7, 7, .pair 7 7⟩
  obtain ⟨xs, hread, hcomponents, -⟩ := overlapComponents_merged hranges
  have hmerged : (ofValueList ranges).toOption.map merged
      = some [⟨1, 3, by decide⟩, ⟨4, 9, by decide⟩] := by cbv
  rw [hread] at hmerged
  exact ⟨hranges, Option.some.inj hmerged ▸ hcomponents⟩

end Sampling

end Formulary
