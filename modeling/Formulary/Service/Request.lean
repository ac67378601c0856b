/-
Formulary.Service.Request — the bodies of requests.

A formula comes with three optional tables: constants for tokens, one-shot replacements for tokens,
and descriptions of keyed placeholders. Ranges come as pairs of bounds, with the mode of sampling.
-/
import Formulary.Sampling.Basic
import Formulary.Schema.Basic

namespace Formulary

/-- The description of a keyed filter from a record. -/
def KeyedSpec.ofFields (fields : Schema.Fields) : Schema.Checked KeyedSpec :=
  let standard : KeyedForm := {}
  (fun token values separator left right => ⟨⟨token, separator, left, right⟩, values⟩)
    <$> Schema.optional fields "token" Schema.text standard.token
    <*> Schema.optional fields "values" (Schema.table Schema.scalar) []
    <*> Schema.optional fields "separator" Schema.text standard.separator
    <*> Schema.optional fields "left_wrapper" Schema.text standard.left
    <*> Schema.optional fields "right_wrapper" Schema.text standard.right

/-- A formula to substitute or to evaluate. -/
structure FormulaRequest where
  formula : Text
  values : Entries Scalar := []
  staged : Entries Scalar := []
  keyed : List KeyedSpec := []

namespace FormulaRequest

/-- A request from a record. -/
def ofFields (fields : Schema.Fields) : Schema.Checked FormulaRequest :=
  FormulaRequest.mk
    <$> Schema.required fields "formula" Schema.text
    <*> Schema.optional fields "values" (Schema.table Schema.scalar) []
    <*> Schema.optional fields "staged" (Schema.table Schema.scalar) []
    <*> Schema.optional fields "keyed" (Schema.list (Schema.record KeyedSpec.ofFields)) []

/-- The rack that a request describes. -/
def rack (request : FormulaRequest) : Rack :=
  Rack.build (request.values.map fun (token, value) => (token, value.toValue))
    (request.staged.map fun (token, value) => (token, value.toValue)) request.keyed

end FormulaRequest

/-- Ranges to draw a value from. -/
structure RangeRequest where
  ranges : List (Int × Int)
  mode : Text := SamplingMode.combine.name.toList

namespace RangeRequest

/-- A request from a record. -/
def ofFields (fields : Schema.Fields) : Schema.Checked RangeRequest :=
  RangeRequest.mk
    <$> Schema.required fields "ranges" (Schema.list (Schema.pair Schema.integer))
    <*> Schema.optional fields "mode" Schema.text SamplingMode.combine.name.toList

/-- The ranges of a request as intervals. -/
def intervals (request : RangeRequest) : List Interval :=
  request.ranges.map fun (low, high) => Interval.ofBounds low high

end RangeRequest

end Formulary
