/-
Formulary.Proofs.Merging — intervals laid end to end, and what merging makes of them.

`Interval.valueAt` finds a value without writing any out. Here the values are written out, as the
list `laid`, and finding a value is looking it up there. Merging keeps exactly the integers that
some interval holds and leaves intervals each of which ends before the next one begins. So what
merged intervals are laid out to is the covered integers in increasing order, each of them once.
-/
import Formulary.Sampling.Merge

namespace Formulary.Interval

variable {x current : Interval} {xs rest : List Interval} {v : Int}

/-! ## Laid end to end -/

/-- The integers of the intervals, one interval after the other. -/
def laid (xs : List Interval) : List Int :=
  xs.flatMap values

theorem laid_cons (x : Interval) (xs : List Interval) : laid (x :: xs) = x.values ++ laid xs :=
  rfl

theorem length_values (x : Interval) : x.values.length = x.size := by
  rw [values, List.length_map, List.length_range]

theorem length_laid (xs : List Interval) : (laid xs).length = total xs := by
  induction xs with
  | nil => rfl
  | cons x rest ih => rw [laid_cons, List.length_append, length_values, ih, total]

/-- Finding the value at a position is looking it up among the values written out. -/
theorem valueAt_eq_get (xs : List Interval) (i : Nat) (h : i < total xs) :
    valueAt xs i h = (laid xs).get ⟨i, by rwa [length_laid]⟩ := by
  induction xs generalizing i with
  | nil => exact absurd h (Nat.not_lt_zero i)
  | cons x rest ih =>
    simp only [List.get_eq_getElem] at ih ⊢
    simp only [laid_cons, List.getElem_append, length_values]
    rw [valueAt]
    split
    case isTrue inside => simp [values]
    case isFalse outside => exact ih ..

theorem mem_laid : v ∈ laid xs ↔ ∃ x ∈ xs, v ∈ x := by
  simp only [laid, List.mem_flatMap, mem_values]

theorem pairwise_values (x : Interval) : x.values.Pairwise (· < ·) := by
  rw [values, List.pairwise_map]
  refine List.pairwise_lt_range.imp ?_
  intro i j hij
  omega

theorem nodup_values (x : Interval) : x.values.Nodup :=
  x.pairwise_values.imp Int.ne_of_lt

/-! ## Intervals that are apart -/

/-- Every interval ends before the later ones begin. -/
def Apart (xs : List Interval) : Prop :=
  xs.Pairwise fun x y => x.high < y.low

/-- Intervals that are apart are laid out in increasing order. -/
theorem Apart.pairwise_laid (h : Apart xs) : (laid xs).Pairwise (· < ·) := by
  refine List.pairwise_flatMap.mpr ⟨fun x _ => pairwise_values x, h.imp ?_⟩
  intro x y hxy v hv w hw
  rw [mem_values, mem_iff] at hv hw
  omega

/-! ## Merging -/

/-- Every interval begins no later than the ones behind it. -/
def InOrder (xs : List Interval) : Prop :=
  xs.Pairwise fun x y => x.low ≤ y.low

theorem le_iff {x y : Interval} :
    le x y = true ↔ x.low < y.low ∨ x.low = y.low ∧ x.high ≤ y.high := by
  simp only [le, Bool.or_eq_true, Bool.and_eq_true, decide_eq_true_eq, beq_iff_eq]

/-- Sorted intervals are in the order of their lower bounds, and of the upper ones where these
agree. -/
theorem pairwise_sorted (xs : List Interval) :
    (sorted xs).Pairwise fun x y => x.low < y.low ∨ x.low = y.low ∧ x.high ≤ y.high := by
  have hsorted : (sorted xs).Pairwise fun x y => le x y = true := by
    refine List.pairwise_mergeSort ?_ ?_ xs
    · intro x y z hxy hyz
      rw [le_iff] at *
      omega
    · intro x y
      rw [Bool.or_eq_true, le_iff, le_iff]
      omega
  exact hsorted.imp le_iff.mp

theorem inOrder_sorted (xs : List Interval) : InOrder (sorted xs) := by
  refine (pairwise_sorted xs).imp ?_
  intro x y hxy
  omega

theorem mem_sorted : x ∈ sorted xs ↔ x ∈ xs :=
  List.mem_mergeSort

/-- An interval that is extended still begins where it did. -/
theorem InOrder.extend {next : Interval} (h : InOrder (current :: next :: rest)) :
    InOrder (current.extend next :: rest) := by
  obtain ⟨hcurrent, hrest⟩ := List.pairwise_cons.mp h
  refine List.pairwise_cons.mpr ⟨?_, (List.pairwise_cons.mp hrest).2⟩
  intro y hy
  exact hcurrent y (List.mem_cons_of_mem next hy)

/-- Nothing that comes out of merging begins before the first interval. -/
theorem low_le_of_mem_mergeInto (h : InOrder (current :: rest))
    (hx : x ∈ mergeInto current rest) : current.low ≤ x.low := by
  induction rest generalizing current with
  | nil =>
    exact Int.le_of_eq (congrArg low (List.mem_singleton.mp hx).symm)
  | cons next rest ih =>
    rw [mergeInto] at hx
    split at hx
    case isTrue =>
      -- The extended interval begins where `current` does.
      have hlow : (current.extend next).low ≤ x.low := ih h.extend hx
      exact hlow
    case isFalse =>
      obtain ⟨hcurrent, hrest⟩ := List.pairwise_cons.mp h
      rcases List.mem_cons.mp hx with rfl | hx
      · exact Int.le_refl _
      · exact Int.le_trans (hcurrent next List.mem_cons_self) (ih hrest hx)

/-- Merging leaves intervals that are apart. -/
theorem apart_mergeInto (h : InOrder (current :: rest)) : Apart (mergeInto current rest) := by
  induction rest generalizing current with
  | nil => exact List.pairwise_singleton _ _
  | cons next rest ih =>
    rw [mergeInto]
    split
    case isTrue => exact ih h.extend
    case isFalse hbehind =>
      have hrest := (List.pairwise_cons.mp h).2
      refine List.pairwise_cons.mpr ⟨?_, ih hrest⟩
      intro y hy
      exact Int.lt_of_lt_of_le (Int.not_le.mp hbehind) (low_le_of_mem_mergeInto hrest hy)

/-- Merging keeps the integers that are covered, and adds none. -/
theorem exists_mem_mergeInto (h : InOrder (current :: rest)) :
    (∃ x ∈ mergeInto current rest, v ∈ x) ↔ ∃ x ∈ current :: rest, v ∈ x := by
  induction rest generalizing current with
  | nil => rfl
  | cons next rest ih =>
    obtain ⟨hcurrent, hrest⟩ := List.pairwise_cons.mp h
    rw [mergeInto]
    split
    case isTrue hinside =>
      have hbegins : next.low ∈ current := ⟨hcurrent next List.mem_cons_self, hinside⟩
      rw [ih h.extend]
      simp only [List.mem_cons, exists_eq_or_imp, mem_extend hbegins, or_assoc]
    case isFalse =>
      simp only [List.mem_cons, exists_eq_or_imp] at ih ⊢
      rw [ih hrest]

/-- Merged intervals are apart. -/
theorem apart_merged (xs : List Interval) : Apart (merged xs) := by
  have hsorted := inOrder_sorted xs
  rw [merged]
  split
  case h_1 => exact List.Pairwise.nil
  case h_2 first rest hcons =>
    rw [hcons] at hsorted
    exact apart_mergeInto hsorted

/-- Merged intervals cover what the intervals cover. -/
theorem exists_mem_merged : (∃ x ∈ merged xs, v ∈ x) ↔ ∃ x ∈ xs, v ∈ x := by
  have hsorted := inOrder_sorted xs
  have hmem : (∃ x ∈ sorted xs, v ∈ x) ↔ ∃ x ∈ xs, v ∈ x := by simp only [mem_sorted]
  rw [← hmem, merged]
  split
  case h_1 hnil => rw [hnil]
  case h_2 first rest hcons =>
    rw [hcons] at hsorted ⊢
    exact exists_mem_mergeInto hsorted

end Formulary.Interval
