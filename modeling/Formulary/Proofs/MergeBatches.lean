/-
Formulary.Proofs.MergeBatches — what is merged already can be merged on.

Ranges need not be merged all at once. What merging gives is again a list of ranges, and merging it
together with more ranges gives what merging all of them would have given, although a new range may
hold several merged ones together. None of this follows the merging: the components of the outcome
and of what came in besides are the components of everything, and ranges have one list of
components. Neither the order of the ranges nor how they are cut into batches leaves a trace.
-/
import Formulary.Proofs.RangeLayout

namespace Formulary

namespace Interval

variable {x y z : Interval} {xs ys mid out : List Interval}

/-! ## Components of components -/

theorem Encloses.trans (hzy : z.Encloses y) (hyx : y.Encloses x) : z.Encloses x :=
  ⟨Int.le_trans hzy.1 hyx.1, Int.le_trans hyx.2 hzy.2⟩

/-- Components depend on which intervals there are, not on their order or number. -/
theorem AreComponents.congr (hmem : ∀ x, x ∈ xs ↔ x ∈ ys) (h : AreComponents xs out) :
    AreComponents ys out := by
  obtain ⟨hapart, hcovered, henclosed, hjoined⟩ := h
  simp only [hmem] at hcovered henclosed hjoined
  exact ⟨hapart, hcovered, henclosed, hjoined⟩

/-- The components of components together with other intervals are those of all intervals. -/
theorem AreComponents.append (hmid : AreComponents xs mid) (h : AreComponents (mid ++ ys) out) :
    AreComponents (xs ++ ys) out where
  apart := h.apart
  covered := by
    intro v
    simp only [h.covered v, List.mem_append, or_and_right, exists_or, hmid.covered v]
  enclosed := by
    intro x hx
    rcases List.mem_append.mp hx with hx | hx
    · obtain ⟨y, hy, hyx⟩ := hmid.enclosed x hx
      obtain ⟨z, hz, hzy⟩ := h.enclosed y (List.mem_append_left ys hy)
      exact ⟨z, hz, hzy.trans hyx⟩
    · exact h.enclosed x (List.mem_append_right mid hx)
  joined := by
    intro z hz v hv hnext
    obtain ⟨y, hy, hboth⟩ := h.joined z hz v hv hnext
    rcases List.mem_append.mp hy with hy | hy
    · -- Neighbours in a merged interval were together in one interval before.
      obtain ⟨x, hx, hboth⟩ := hmid.joined y hy v hboth.1 hboth.2
      exact ⟨x, List.mem_append_left ys hx, hboth⟩
    · exact ⟨y, List.mem_append_right xs hy, hboth⟩

/-- Merging does not depend on the order of the intervals. -/
theorem merged_perm (h : xs.Perm ys) : merged xs = merged ys :=
  ((areComponents_merged xs).congr fun _ => h.mem_iff).unique (areComponents_merged ys)

/-- Merging what is merged together with more is merging everything. -/
theorem merged_append (xs ys : List Interval) : merged (merged xs ++ ys) = merged (xs ++ ys) :=
  ((areComponents_merged xs).append (areComponents_merged _)).unique (areComponents_merged _)

end Interval

/-! ## Ranges as they are written -/

namespace Sampling

open Formulary.Interval (merged merged_append merged_perm ofValueList)

variable {ranges others : List Value} {xs ys : List Interval} {batches : List (List Value)}

/-- The ranges merged, or why they are none. -/
def mergedRanges (ranges : List Value) : Except RangeError (List Interval) :=
  (ofValueList ranges).map merged

/-- Intervals written as ranges again. -/
def written (xs : List Interval) : List Value :=
  xs.map fun x => .list [.int x.low, .int x.high]

/-- Ranges that come in batches, each of them merged with what the ones before were merged to. -/
def mergedInBatches (batches : List (List Value)) : Except RangeError (List Interval) :=
  batches.foldlM (fun out batch => mergedRanges (written out ++ batch)) []

/-- What is written stands for the intervals that were written. -/
theorem denotes_written (xs : List Interval) : List.Forall₂ Denotes (written xs) xs := by
  rw [written, List.forall₂_map_left_iff, List.forall₂_same]
  intro x _
  have hordered := x.low_le_high
  exact ⟨x.low, x.high, .pair _ _, by omega, by omega⟩

theorem mergedRanges_of_denotes (h : List.Forall₂ Denotes ranges xs) :
    mergedRanges ranges = .ok (merged xs) := by
  rw [mergedRanges, ofValueList_of_denotes h]
  rfl

/-- What was merged can be written and merged on. -/
theorem mergedRanges_written (h : List.Forall₂ Denotes ranges ys) (xs : List Interval) :
    mergedRanges (written (merged xs) ++ ranges) = .ok (merged (xs ++ ys)) := by
  rw [mergedRanges_of_denotes (List.rel_append (denotes_written (merged xs)) h), merged_append]

/-- The order of ranges has no influence on what they are merged to. -/
theorem mergedRanges_of_perm (hperm : others.Perm ranges) (h : List.Forall₂ Denotes ranges xs) :
    mergedRanges others = .ok (merged xs) := by
  obtain ⟨ys, hdenotes, hys⟩ := List.perm_comp_forall₂ hperm h
  rw [mergedRanges_of_denotes hdenotes, merged_perm hys]

/-- A batch after the other, everything that has come in so far is merged. -/
theorem mergedInBatches_of_denotes (h : List.Forall₂ Denotes batches.flatten xs) :
    mergedInBatches batches = .ok (merged xs) := by
  suffices hfrom : ∀ before, batches.foldlM (fun out batch => mergedRanges (written out ++ batch))
      (merged before) = .ok (merged (before ++ xs)) by
    have hnothing : merged [] = [] := by rw [merged, Interval.sorted, List.mergeSort_nil]
    have hstart := hfrom []
    rwa [hnothing, List.nil_append] at hstart
  induction batches generalizing xs with
  | nil =>
    intro before
    obtain rfl := List.forall₂_nil_left_iff.mp h
    rw [List.append_nil]
    rfl
  | cons batch rest ih =>
    intro before
    have hbatch := List.forall₂_take batch.length h
    have hrest := List.forall₂_drop batch.length h
    rw [List.flatten_cons, List.take_left] at hbatch
    rw [List.flatten_cons, List.drop_left] at hrest
    rw [List.foldlM_cons, mergedRanges_written hbatch]
    conv_rhs => rw [← List.take_append_drop batch.length xs, ← List.append_assoc]
    exact ih hrest (before ++ xs.take batch.length)

/-- **Merging is insensitive to order and batches.** Ranges of integers are merged to the same
whatever their order is, and also if they come in batches, however any rearrangement of them is cut.
What they are merged to, together with other ranges, is merged to what all the ranges are; so
merging once more changes nothing. -/
theorem mergedRanges_batches (hranges : AreRanges ranges) :
    ∃ out, mergedRanges ranges = .ok out ∧
      (∀ rearranged, rearranged.Perm ranges → mergedRanges rearranged = .ok out) ∧
      (∀ batches, batches.flatten.Perm ranges → mergedInBatches batches = .ok out) ∧
      mergedRanges (written out) = .ok out ∧
      ∀ others, AreRanges others → ∃ all, mergedRanges (ranges ++ others) = .ok all ∧
        mergedRanges (written out ++ others) = .ok all := by
  obtain ⟨xs, hxs⟩ := exists_denotes hranges
  refine ⟨merged xs, mergedRanges_of_denotes hxs, fun rearranged hperm => ?_,
    fun batches hperm => ?_, ?_, fun others hothers => ?_⟩
  · exact mergedRanges_of_perm hperm hxs
  · obtain ⟨ys, hdenotes, hys⟩ := List.perm_comp_forall₂ hperm hxs
    rw [mergedInBatches_of_denotes hdenotes, merged_perm hys]
  · simpa only [List.append_nil] using mergedRanges_written List.Forall₂.nil xs
  · obtain ⟨ys, hys⟩ := exists_denotes hothers
    exact ⟨merged (xs ++ ys), mergedRanges_of_denotes (List.rel_append hxs hys),
      mergedRanges_written hys xs⟩

/-- Two ranges that are apart, one with reversed bounds, and a third one that holds them together:
it is merged into both at once, also when it comes first and in a batch of its own. -/
theorem mergedRanges_batches_bridged :
    let reversed : Value := .list [.int 5, .int 1]
    let record : Value := .record [("min".toList, .int 7), ("max".toList, .int 9)]
    let bridge : Value := .list [.int 4, .int 8]
    AreRanges [reversed, record] ∧ AreRanges [bridge] ∧
      mergedRanges [reversed, record] = .ok [⟨1, 5, by decide⟩, ⟨7, 9, by decide⟩] ∧
      mergedRanges (written [⟨1, 5, by decide⟩, ⟨7, 9, by decide⟩] ++ [bridge])
        = .ok [⟨1, 9, by decide⟩] ∧
      mergedInBatches [[bridge], [], [record, reversed]] = .ok [⟨1, 9, by decide⟩] := by
  intro reversed record bridge
  have hrecord : Bounds record 7 9 := .record rfl rfl
  have hall : AreRanges ([reversed, record] ++ [bridge]) := by
    intro range hrange
    simp only [List.cons_append, List.nil_append, List.mem_cons, List.not_mem_nil, or_false]
      at hrange
    rcases hrange with rfl | rfl | rfl
    · exact ⟨5, 1, .pair 5 1⟩
    · exact ⟨7, 9, hrecord⟩
    · exact ⟨4, 8, .pair 4 8⟩
  have hranges : AreRanges [reversed, record] :=
    fun range h => hall range (List.mem_append_left _ h)
  have hothers : AreRanges [bridge] := fun range h => hall range (List.mem_append_right _ h)
  have hapart : mergedRanges [reversed, record]
      = .ok [⟨1, 5, by decide⟩, ⟨7, 9, by decide⟩] := by cbv
  have htogether : mergedRanges ([reversed, record] ++ [bridge]) = .ok [⟨1, 9, by decide⟩] := by cbv
  refine ⟨hranges, hothers, hapart, ?_, ?_⟩
  · obtain ⟨out, hout, -, -, -, hon⟩ := mergedRanges_batches hranges
    obtain ⟨all, hall, hmerged⟩ := hon [bridge] hothers
    cases hapart.symm.trans hout
    rw [hmerged, ← hall, htogether]
  · obtain ⟨out, hout, -, hbatches, -⟩ := mergedRanges_batches hall
    have hbackwards : [[bridge], [], [record, reversed]].flatten.Perm
        ([reversed, record] ++ [bridge]) := List.reverse_perm [reversed, record, bridge]
    rw [hbatches _ hbackwards, ← hout, htogether]

end Sampling

end Formulary
