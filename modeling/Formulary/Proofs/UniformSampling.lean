/-
Formulary.Proofs.UniformSampling — a draw from a union hits every covered integer once.

Drawing from a union of ranges is one draw below the number of integers that the ranges cover, and
the number drawn is the rank of the integer that comes out: zero stands for the least one. So all
that matters about the ranges is which integers they cover. How they are written (as pairs or as
records, with bounds in either order), how often they overlap and how the union is cut into ranges
has no influence on any draw.
-/
import Mathlib
import Formulary.Proofs.Merging
import Formulary.Sampling.Basic

namespace Formulary.Sampling

open Formulary.Interval (ofBounds ofValue ofValueList laid merged)

variable {range : Value} {ranges others : List Value} {a b v : Int} {xs : List Interval}

/-! ## What ranges cover -/

/-- A range as it is written, and its bounds in the order in which they are given. -/
inductive Bounds : Value → Int → Int → Prop
  | pair (a b : Int) : Bounds (.list [.int a, .int b]) a b
  | record {fields : List (Text × Value)} {a b : Int}
      (hmin : (Value.record fields).field? "min" = some (.int a))
      (hmax : (Value.record fields).field? "max" = some (.int b)) : Bounds (.record fields) a b

/-- Every one of the values is a range of integers. -/
def AreRanges (ranges : List Value) : Prop :=
  ∀ range ∈ ranges, ∃ a b, Bounds range a b

/-- An integer is covered when it lies between the bounds of one of the ranges. -/
def Covers (ranges : List Value) (v : Int) : Prop :=
  ∃ range ∈ ranges, ∃ a b, Bounds range a b ∧ min a b ≤ v ∧ v ≤ max a b

theorem ofValue_of_bounds (h : Bounds range a b) : ofValue range = .ok (ofBounds a b) := by
  cases h with
  | pair => rfl
  | record hmin hmax =>
    rw [ofValue, hmin, hmax]
    rfl

theorem mem_ofBounds : v ∈ ofBounds a b ↔ min a b ≤ v ∧ v ≤ max a b := by
  rw [ofBounds]
  split <;> rw [Interval.mem_iff] <;> simp only <;> omega

/-- Ranges are read as the intervals between their bounds, one for each. -/
theorem exists_intervals (h : AreRanges ranges) :
    ∃ xs, ofValueList ranges = .ok xs ∧ xs.length = ranges.length ∧
      ∀ x, x ∈ xs ↔ ∃ range ∈ ranges, ∃ a b, Bounds range a b ∧ x = ofBounds a b := by
  induction ranges with
  | nil => exact ⟨[], rfl, rfl, fun x => by simp⟩
  | cons range rest ih =>
    obtain ⟨⟨a, b, hbounds⟩, hrest⟩ := List.forall_mem_cons.mp h
    obtain ⟨xs, hread, hlength, hmem⟩ := ih hrest
    have hvalue := ofValue_of_bounds hbounds
    refine ⟨ofBounds a b :: xs, ?_, congrArg (· + 1) hlength, fun x => ?_⟩
    · rw [ofValueList, hvalue, hread]
      rfl
    · -- The bounds of a range are determined by what it is read as.
      have hfirst : x = ofBounds a b ↔ ∃ c d, Bounds range c d ∧ x = ofBounds c d := by
        refine ⟨fun hx => ⟨a, b, hbounds, hx⟩, ?_⟩
        rintro ⟨c, d, hother, rfl⟩
        exact Except.ok.inj ((ofValue_of_bounds hother).symm.trans hvalue)
      rw [List.mem_cons, List.exists_mem_cons_iff, hmem, hfirst]

/-- Ranges are read as intervals, one for each, that hold the covered integers. -/
theorem exists_ofValueList (h : AreRanges ranges) :
    ∃ xs, ofValueList ranges = .ok xs ∧ xs.length = ranges.length ∧
      ∀ v, (∃ x ∈ xs, v ∈ x) ↔ Covers ranges v := by
  obtain ⟨xs, hread, hlength, hmem⟩ := exists_intervals h
  refine ⟨xs, hread, hlength, fun v => ⟨?_, ?_⟩⟩
  · rintro ⟨x, hx, hv⟩
    obtain ⟨range, hrange, a, b, hbounds, rfl⟩ := (hmem x).mp hx
    exact ⟨range, hrange, a, b, hbounds, mem_ofBounds.mp hv⟩
  · rintro ⟨range, hrange, a, b, hbounds, hv⟩
    exact ⟨ofBounds a b, (hmem _).mpr ⟨range, hrange, a, b, hbounds, rfl⟩, mem_ofBounds.mpr hv⟩

/-! ## Ranks -/

/-- The integers that intervals hold. -/
def covered (xs : List Interval) : Finset Int :=
  (laid (merged xs)).toFinset

theorem mem_covered : v ∈ covered xs ↔ ∃ x ∈ xs, v ∈ x := by
  rw [covered, List.mem_toFinset, Interval.mem_laid, Interval.exists_mem_merged]

/-- Merged intervals hold every integer once. -/
theorem card_covered (xs : List Interval) : (covered xs).card = Interval.total (merged xs) := by
  have hlaid := (Interval.apart_merged xs).pairwise_laid
  rw [covered, List.toFinset_card_of_nodup (hlaid.imp ne_of_lt), Interval.length_laid]

/-- In merged intervals laid end to end, the value at a position has that position as its rank. -/
theorem valueAt_merged (xs : List Interval) (i : Fin (Interval.total (merged xs))) :
    Interval.valueAt (merged xs) i i.isLt = (covered xs).orderEmbOfFin (card_covered xs) i := by
  have hlaid := (Interval.apart_merged xs).pairwise_laid
  have hmem : ∀ j : Fin (Interval.total (merged xs)),
      Interval.valueAt (merged xs) j j.isLt ∈ covered xs := by
    intro j
    rw [Interval.valueAt_eq_get, covered, List.mem_toFinset]
    exact List.get_mem _ _
  have hmono : StrictMono fun j : Fin (Interval.total (merged xs)) =>
      Interval.valueAt (merged xs) j j.isLt := by
    intro j k hjk
    simp only [Interval.valueAt_eq_get, List.get_eq_getElem]
    exact List.pairwise_iff_getElem.mp hlaid j k _ _ hjk
  exact congrFun (Finset.orderEmbOfFin_unique (card_covered xs) hmem hmono) i

/-- As many elements of a finite set are smaller than the one with a given rank as the rank says. -/
theorem card_filter_lt_orderEmbOfFin {s : Finset Int} {n : Nat} (hcard : s.card = n) (i : Fin n) :
    (s.filter (· < s.orderEmbOfFin hcard i)).card = i := by
  have hsmaller : s.filter (· < s.orderEmbOfFin hcard i)
      = (Finset.Iio i).map (s.orderEmbOfFin hcard).toEmbedding := by
    ext v
    rw [Finset.mem_filter, Finset.mem_map]
    constructor
    · rintro ⟨hv, hlt⟩
      rw [← Finset.mem_coe, ← Finset.range_orderEmbOfFin s hcard] at hv
      obtain ⟨j, rfl⟩ := hv
      exact ⟨j, Finset.mem_Iio.mpr ((s.orderEmbOfFin hcard).lt_iff_lt.mp hlt), rfl⟩
    · rintro ⟨j, hj, rfl⟩
      exact ⟨Finset.orderEmbOfFin_mem s hcard j,
        (s.orderEmbOfFin hcard).lt_iff_lt.mpr (Finset.mem_Iio.mp hj)⟩
  rw [hsmaller, Finset.card_map, Fin.card_Iio]

/-! ## Drawing from a union -/

/-- Drawing from a union of intervals is drawing the rank of a covered integer. -/
theorem fromRanges_combine (hne : xs ≠ []) :
    ∃ positive : 0 < Interval.total (merged xs),
      fromRanges .combine xs
        = .ok (.single _ positive ((covered xs).orderEmbOfFin (card_covered xs))) := by
  have positive : 0 < Interval.total (merged xs) := by
    obtain ⟨x, rest, rfl⟩ := List.exists_cons_of_ne_nil hne
    rw [← card_covered, Finset.card_pos]
    exact ⟨x.low, mem_covered.mpr ⟨x, List.mem_cons_self, Int.le_refl _, x.low_le_high⟩⟩
  refine ⟨positive, ?_⟩
  rw [fromRanges, fromLayout, SamplingMode.arrange, dif_pos positive]
  exact congrArg (fun f => Except.ok (Drawing.single _ positive f)) (funext (valueAt_merged xs))

/-- **Sampling from a union is uniform.** For ranges of integers, at least one of them, there is one
draw below the number of covered integers, and the number drawn is the rank of the covered integer
that comes out. The integers therefore come out in increasing order of the number drawn, every
covered one exactly once; and other ranges that cover the same integers make the same program. -/
theorem fromValues_combine (hne : ranges ≠ []) (hranges : AreRanges ranges) :
    ∃ (union : Finset Int) (n : Nat) (hcard : union.card = n) (positive : 0 < n),
      (∀ v, v ∈ union ↔ Covers ranges v) ∧
      fromValues SamplingMode.combine.name.toList ranges
        = .ok (.single n positive (union.orderEmbOfFin hcard)) ∧
      (∀ i, (union.filter (· < union.orderEmbOfFin hcard i)).card = i) ∧
      StrictMono (union.orderEmbOfFin hcard) ∧
      Set.range (union.orderEmbOfFin hcard) = {v | Covers ranges v} ∧
      ∀ others, others ≠ [] → AreRanges others → (∀ v, Covers others v ↔ Covers ranges v) →
        fromValues SamplingMode.combine.name.toList others
          = .ok (.single n positive (union.orderEmbOfFin hcard)) := by
  -- Whatever the ranges are, the program is the one for the set of integers that they cover.
  have hprogram : ∀ others, others ≠ [] → AreRanges others →
      ∃ (union : Finset Int) (n : Nat) (hcard : union.card = n) (positive : 0 < n),
        (∀ v, v ∈ union ↔ Covers others v) ∧
        fromValues SamplingMode.combine.name.toList others
          = .ok (.single n positive (union.orderEmbOfFin hcard)) := by
    intro others hne hothers
    obtain ⟨xs, hread, hlength, hcovers⟩ := exists_ofValueList hothers
    have hxs : xs ≠ [] := by
      rintro rfl
      exact hne (List.length_eq_zero_iff.mp hlength.symm)
    obtain ⟨positive, hdraw⟩ := fromRanges_combine hxs
    refine ⟨covered xs, _, card_covered xs, positive, fun v => ?_, ?_⟩
    · rw [mem_covered, hcovers]
    · have hmode : SamplingMode.ofName? SamplingMode.combine.name.toList = some .combine := rfl
      rw [fromValues, hmode, hread]
      exact hdraw
  obtain ⟨union, n, hcard, positive, hunion, hdraw⟩ := hprogram ranges hne hranges
  have hrange : Set.range (union.orderEmbOfFin hcard) = {v | Covers ranges v} := by
    rw [Finset.range_orderEmbOfFin]
    exact Set.ext hunion
  refine ⟨union, n, hcard, positive, hunion, hdraw, card_filter_lt_orderEmbOfFin hcard,
    (union.orderEmbOfFin hcard).strictMono, hrange, ?_⟩
  intro others hne hothers hsame
  obtain ⟨union', n', hcard', positive', hunion', hdraw'⟩ := hprogram others hne hothers
  obtain rfl : union' = union := Finset.ext fun v => by rw [hunion', hunion, hsame]
  obtain rfl : n' = n := hcard'.symm.trans hcard
  exact hdraw'

/-- A pair with reversed bounds, a record that overlaps it and a single integer: seven integers are
covered, and the last number that can be drawn stands for the greatest of them. -/
theorem fromValues_combine_overlapping :
    let ranges : List Value :=
      [.list [.int 5, .int 2], .record [("min".toList, .int 4), ("max".toList, .int 7)],
        .list [.int 9, .int 9]]
    ranges ≠ [] ∧ AreRanges ranges ∧
      ∃ (union : Finset Int) (hcard : union.card = 7),
        (∀ v, v ∈ union ↔ Covers ranges v) ∧ union.orderEmbOfFin hcard 6 = 9 := by
  intro ranges
  have hne : ranges ≠ [] := List.cons_ne_nil _ _
  have hranges : AreRanges ranges := by
    intro range hrange
    simp only [ranges, List.mem_cons, List.not_mem_nil, or_false] at hrange
    rcases hrange with rfl | rfl | rfl
    · exact ⟨5, 2, .pair 5 2⟩
    · exact ⟨4, 7, .record rfl rfl⟩
    · exact ⟨9, 9, .pair 9 9⟩
  obtain ⟨union, n, hcard, positive, hunion, hdraw, -⟩ := fromValues_combine hne hranges
  refine ⟨hne, hranges, ?_⟩
  -- The program is run on a source that gives the number six.
  have hrun := congrArg (fun program => program.toOption.map (Drawing.run (fun _ => 6) 0)) hdraw
  have hresult : (fromValues SamplingMode.combine.name.toList ranges).toOption.map
      (Drawing.run (fun _ => 6) 0) = some ([⟨7, 6⟩], 9) := by cbv
  rw [hresult] at hrun
  simp only [Except.toOption, Option.map_some, Drawing.run_single, Option.some.injEq,
    Prod.mk.injEq, List.cons.injEq, Draw.mk.injEq, and_true] at hrun
  obtain ⟨⟨rfl, -⟩, hvalue⟩ := hrun
  exact ⟨union, hcard, hunion, hvalue.symm⟩

end Formulary.Sampling
