/-
Formulary.Sampling.Range — how a range is written, and which values are none.

A range is written as its two bounds, in a list or in a record with the fields `min` and `max`. The
bounds are integers, and may come in either order. A text counts as the list of its characters,
which are no bounds.

Bounds of other kinds make no range: most kinds are not ordered, and two texts or two lists have an
order but no difference. Two numbers of which one is no integer have both, and could be the bounds
of a range of numbers. A range of that kind is none here, and what would be drawn from it is not
modelled: `notIntegers` is the answer of this function to such bounds and stands for no error of a
sampler.
-/
import Formulary.Sampling.Interval
import Formulary.Value

namespace Formulary

/-- Why a value is no range. -/
inductive RangeError
  | tooFew (count : Nat)
  | tooMany
  | missingBound (field : String)
  | notSeveral (kind : String)
  | notOrdered (low high : String)
  | notSubtracted (kind : String)
  | notIntegers (low high : String)
deriving DecidableEq, Repr

namespace RangeError

/-- The kind of the error. -/
def name : RangeError → String
  | .tooFew _ => "ValueError"
  | .tooMany => "ValueError"
  | .missingBound _ => "KeyError"
  | .notSeveral _ => "TypeError"
  | .notOrdered .. => "TypeError"
  | .notSubtracted _ => "TypeError"
  | .notIntegers .. => "TypeError"

/-- The report of the error. -/
def message : RangeError → String
  | .tooFew count => s!"not enough values to unpack (expected 2, got {count})"
  | .tooMany => "too many values to unpack (expected 2)"
  | .missingBound field => s!"'{field}'"
  | .notSeveral kind => s!"cannot unpack non-iterable {kind} object"
  | .notOrdered low high => s!"'<=' not supported between instances of '{low}' and '{high}'"
  | .notSubtracted kind => s!"unsupported operand type(s) for -: '{kind}' and '{kind}'"
  | .notIntegers low high => s!"bounds that are no integers: '{low}' and '{high}'"

end RangeError

namespace Interval

/-- A bound: an integer, or a truth value as zero or one. -/
def bound? : Value → Option Int
  | .int n => some n
  | .bool b => some (if b then 1 else 0)
  | _ => none

/-- Why there is no interval between two values that are not both integers. Two lists count as
ordered, whatever their items are. -/
def noInterval : Value → Value → RangeError
  | .text _, .text _ => .notSubtracted "str"
  | .list _, .list _ => .notSubtracted "list"
  | low, high =>
    if low.isNumber && high.isNumber then .notIntegers low.kind high.kind
    else .notOrdered low.kind high.kind

/-- The interval between two values. -/
def ofValues (low high : Value) : Except RangeError Interval :=
  match bound? low, bound? high with
  | some a, some b => pure (ofBounds a b)
  | _, _ => throw (noInterval low high)

/-- The interval that a list of two bounds stands for. -/
def ofPair : List Value → Except RangeError Interval
  | [low, high] => ofValues low high
  | items => throw (if items.length < 2 then .tooFew items.length else .tooMany)

/-- The interval that a value stands for. -/
def ofValue : Value → Except RangeError Interval
  | .list items => ofPair items
  | .text t => ofPair (t.map fun c => .text [c])
  | .record fields =>
    match (Value.record fields).field? "min", (Value.record fields).field? "max" with
    | some low, some high => ofValues low high
    | none, _ => throw (.missingBound "min")
    | _, none => throw (.missingBound "max")
  | other => throw (.notSeveral other.kind)

/-- The intervals that values stand for; the first value that is no range decides the error. -/
def ofValueList : List Value → Except RangeError (List Interval)
  | [] => pure []
  | v :: rest => do
    let x ← ofValue v
    let xs ← ofValueList rest
    pure (x :: xs)

end Interval

end Formulary
