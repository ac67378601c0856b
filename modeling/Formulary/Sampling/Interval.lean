/-
Formulary.Sampling.Interval — inclusive ranges of integers, and lists of them laid end to end.

An interval is never empty: its bounds are in order, which is part of the type. Bounds that arrive
in either order become an interval by swapping them. A list of intervals is also a list of integers,
the values of the first interval, then those of the second, and so on. `total` is the length of
that list and `valueAt` its element at a position; neither writes the list out. Positions come with
the proof that they are in bounds, so there is no position without a value.
-/
namespace Formulary

/-- An inclusive range of integers. -/
structure Interval where
  low : Int
  high : Int
  low_le_high : low ≤ high
deriving DecidableEq, Repr

namespace Interval

/-- The interval between two bounds, given in either order. -/
def ofBounds (a b : Int) : Interval :=
  if h : a ≤ b then ⟨a, b, h⟩ else ⟨b, a, by omega⟩

/-- An integer lies in an interval when it lies between the bounds. -/
instance : Membership Int Interval where
  mem x v := x.low ≤ v ∧ v ≤ x.high

/-- Which integers lie in an interval. -/
theorem mem_iff {x : Interval} {v : Int} : v ∈ x ↔ x.low ≤ v ∧ v ≤ x.high :=
  Iff.rfl

/-- The order in which the bounds are given does not matter. -/
theorem ofBounds_comm (a b : Int) : ofBounds a b = ofBounds b a := by
  unfold ofBounds
  split <;> split
  · have h : a = b := by omega
    subst h
    rfl
  · rfl
  · rfl
  · omega

/-- How many integers an interval holds. -/
def size (x : Interval) : Nat :=
  (x.high - x.low + 1).toNat

/-- An interval holds at least one integer. -/
theorem size_pos (x : Interval) : 0 < x.size := by
  have := x.low_le_high
  unfold size
  omega

/-- The order of intervals: by the lower bound, then by the upper one. -/
def le (x y : Interval) : Bool :=
  x.low < y.low || (x.low == y.low && x.high ≤ y.high)

/-- Intervals in order. -/
def sorted (xs : List Interval) : List Interval :=
  xs.mergeSort le

/-! ## End to end -/

/-- The integers of an interval, in order. -/
def values (x : Interval) : List Int :=
  (List.range x.size).map fun (i : Nat) => x.low + i

/-- The values of an interval are the integers that lie in it. -/
theorem mem_values {x : Interval} {v : Int} : v ∈ x.values ↔ v ∈ x := by
  have h := x.low_le_high
  simp only [values, List.mem_map, List.mem_range, mem_iff, size]
  constructor
  · rintro ⟨i, hi, rfl⟩
    omega
  · rintro ⟨hl, hh⟩
    exact ⟨(v - x.low).toNat, by omega, by omega⟩

/-- How many integers the intervals hold one by one. -/
def total : List Interval → Nat
  | [] => 0
  | x :: rest => x.size + total rest

/-- The integer at a position of the intervals laid end to end. -/
def valueAt : (xs : List Interval) → (i : Nat) → i < total xs → Int
  | [], _, h => absurd h (Nat.not_lt_zero _)
  | x :: rest, i, h =>
    if inside : i < x.size then x.low + i
    else
      valueAt rest (i - x.size) (by
        simp only [total] at h
        omega)

/-- Only the empty list of intervals holds nothing. -/
theorem total_eq_zero {xs : List Interval} : total xs = 0 ↔ xs = [] := by
  cases xs with
  | nil => simp [total]
  | cons x rest =>
    have := x.size_pos
    simp only [total, reduceCtorEq, iff_false]
    omega

end Interval

end Formulary
