/-
Formulary.Schema.Problem — what is wrong with data, and where.

Data from outside is checked as a whole: all problems are reported, each with the place where it was
found and what is wrong there. A result of checking is either accepted data or the problems in the
order of the data's parts, and combining results keeps the problems of both.
-/
import Formulary.Value

namespace Formulary.Schema

/-- One step on the way to a place in the data: into a field, or into an element. -/
inductive Step
  | field (name : Text)
  | element (index : Nat)
deriving DecidableEq

/-- What is wrong at a place. -/
inductive Mismatch
  | missing
  | notText
  | notInteger
  | notIntegerText
  | tooLargeInteger
  | fractional
  | notFinite
  | notNumber
  | notTruth
  | notTruthName
  | notList
  | notTable
  | notRecord
  | notTuple
  | tooLong (most count : Nat)
deriving DecidableEq

namespace Mismatch

/-- The short name of a mismatch. -/
def code : Mismatch → String
  | .missing => "missing"
  | .notText => "string_type"
  | .notInteger => "int_type"
  | .notIntegerText => "int_parsing"
  | .tooLargeInteger => "int_parsing_size"
  | .fractional => "int_from_float"
  | .notFinite => "finite_number"
  | .notNumber => "float_type"
  | .notTruth => "bool_type"
  | .notTruthName => "bool_parsing"
  | .notList => "list_type"
  | .notTable => "dict_type"
  | .notRecord => "model_attributes_type"
  | .notTuple => "tuple_type"
  | .tooLong .. => "too_long"

/-- A mismatch in words. -/
def message : Mismatch → String
  | .missing => "Field required"
  | .notText => "Input should be a valid string"
  | .notInteger => "Input should be a valid integer"
  | .notIntegerText => "Input should be a valid integer, unable to parse string as an integer"
  | .tooLargeInteger => "Unable to parse input string as an integer, exceeded maximum size"
  | .fractional => "Input should be a valid integer, got a number with a fractional part"
  | .notFinite => "Input should be a finite number"
  | .notNumber => "Input should be a valid number"
  | .notTruth => "Input should be a valid boolean"
  | .notTruthName => "Input should be a valid boolean, unable to interpret input"
  | .notList => "Input should be a valid list"
  | .notTable => "Input should be a valid dictionary"
  | .notRecord => "Input should be a valid dictionary or object to extract fields from"
  | .notTuple => "Input should be a valid tuple"
  | .tooLong most count => s!"Tuple should have at most {most} items after validation, not {count}"

end Mismatch

/-- A mismatch at a place. -/
structure Problem where
  path : List Step
  mismatch : Mismatch
deriving DecidableEq

/-- A problem of a part as a problem of the whole. -/
def Problem.within (step : Step) (problem : Problem) : Problem :=
  { problem with path := step :: problem.path }

/-- The result of checking: accepted data, or problems. -/
inductive Checked (α : Type)
  | accepted (data : α)
  | refused (problems : List Problem)

namespace Checked

/-- Data refused for a single mismatch, at the place of the data itself. -/
def mismatched {α : Type} (mismatch : Mismatch) : Checked α :=
  .refused [⟨[], mismatch⟩]

/-- Accepted data changed by a function. -/
def map {α β : Type} (f : α → β) : Checked α → Checked β
  | .accepted data => .accepted (f data)
  | .refused problems => .refused problems

/-- A function applied to data, if both were accepted; otherwise the problems of both. -/
def ap {α β : Type} : Checked (α → β) → Checked α → Checked β
  | .accepted f, .accepted data => .accepted (f data)
  | .accepted _, .refused problems => .refused problems
  | .refused problems, .accepted _ => .refused problems
  | .refused problems, .refused more => .refused (problems ++ more)

instance : Applicative Checked where
  pure := .accepted
  map := Checked.map
  seq f data := f.ap (data ())

/-- The result for a part as a part of the result for the whole. -/
def within {α : Type} (step : Step) : Checked α → Checked α
  | .accepted data => .accepted data
  | .refused problems => .refused (problems.map (Problem.within step))

end Checked

end Formulary.Schema
