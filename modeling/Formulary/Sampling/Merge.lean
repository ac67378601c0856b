/-
Formulary.Sampling.Merge — a union of intervals, every integer once.

Intervals in order are merged from the left: one that begins inside the interval before it is
joined to it, any other one begins a new interval. Intervals that merely stand side by side, with no
integer in common, stay apart.
-/
import Formulary.Sampling.Interval

namespace Formulary.Interval

/-- The interval reaching up to the end of another one, if that is farther. -/
def extend (x y : Interval) : Interval where
  low := x.low
  high := max x.high y.high
  low_le_high := by
    have := x.low_le_high
    omega

/-- An interval that begins inside another one extends it by its own integers and by no others. -/
theorem mem_extend {x y : Interval} (begins : y.low ∈ x) {v : Int} :
    v ∈ x.extend y ↔ v ∈ x ∨ v ∈ y := by
  have := y.low_le_high
  simp only [mem_iff, extend] at *
  omega

/-- Merge intervals in order into a first one. -/
def mergeInto (current : Interval) : List Interval → List Interval
  | [] => [current]
  | next :: rest =>
    if next.low ≤ current.high then mergeInto (current.extend next) rest
    else current :: mergeInto next rest

/-- The union of intervals as intervals in order that have no integer in common. -/
def merged (xs : List Interval) : List Interval :=
  match sorted xs with
  | [] => []
  | first :: rest => mergeInto first rest

end Formulary.Interval
