/-
Formulary.Build — racks from plain data.

A rack can be described by three tables: constants for tokens, one-shot replacements for tokens, and
keyed placeholders with their values. Tokens keep the order of the constants, then that of the
one-shot entries; keyed filters follow. In a table a later entry for the same name replaces the
value and keeps the place. The values of the tables are such that have a text.
-/
import Formulary.Rack

namespace Formulary

/-- A table with its entries in order. -/
abbrev Entries (α : Type) := List (Text × α)

namespace Entries

/-- Set the value for a name: in place if there is an entry, at the end otherwise. -/
def put {α : Type} (name : Text) (value : α) : Entries α → Entries α
  | [] => [(name, value)]
  | (other, old) :: rest =>
    if other = name then (name, value) :: rest else (other, old) :: put name value rest

/-- The table that results from setting the pairs one after another. -/
def ofPairs {α : Type} (pairs : List (Text × α)) : Entries α :=
  pairs.foldl (fun entries (name, value) => put name value entries) []

/-- The value for a name. -/
def get? {α : Type} (name : Text) : Entries α → Option α
  | [] => none
  | (other, value) :: rest => if other = name then some value else get? name rest

/-- Setting a name makes its value the one that is found. -/
theorem get?_put_self {α : Type} (name : Text) (value : α) (entries : Entries α) :
    (put name value entries).get? name = some value := by
  induction entries with
  | nil => simp [put, get?]
  | cons entry rest ih =>
    obtain ⟨other, old⟩ := entry
    by_cases h : other = name
    · simp [put, get?, h]
    · simp [put, get?, h, ih]

/-- Setting a name leaves the values of the other names alone. -/
theorem get?_put_of_ne {α : Type} {name other : Text} (h : other ≠ name) (value : α)
    (entries : Entries α) : (put name value entries).get? other = entries.get? other := by
  induction entries with
  | nil => simp [put, get?, h.symm]
  | cons entry rest ih =>
    obtain ⟨first, old⟩ := entry
    by_cases hn : first = name
    · have hf : first ≠ other := fun e => h (e.symm.trans hn)
      simp [put, get?, hn, h.symm]
    · by_cases hf : first = other
      · simp [put, get?, hf, h]
      · simp [put, get?, hn, hf, ih]

end Entries

/-- A value of a request: a number or a text. -/
inductive Scalar
  | int (n : Int)
  | float (x : Float)
  | text (t : Text)

/-- A scalar as a value. -/
def Scalar.toValue : Scalar → Value
  | .int n => .int n
  | .float x => .float x
  | .text t => .text t

/-- The description of a keyed filter: its form, and the values for its keys. -/
structure KeyedSpec where
  form : KeyedForm := {}
  values : Entries Scalar := []

namespace Rack

/-- The filter for a token: its constant, or nothing, and what is staged for it. -/
def tokenFilter (values staged : Entries Value) (token : Text) : Filter :=
  let f : Filter :=
    { kind := .overridable token []
      replacer := some (Replacer.constant ((values.get? token).getD .null)) }
  match staged.get? token with
  | some value => f.stage value
  | none => f

/-- The filter for a keyed description. -/
def keyedFilter (spec : KeyedSpec) : Filter where
  kind := .keyed spec.form
  replacer := some (Replacer.lookup (spec.values.map fun (key, value) => (key, value.toValue)))

/-- The tokens of the two tables, each once. -/
def tokens (values staged : Entries Value) : List Text :=
  values.map (·.1) ++ (staged.map (·.1)).filter fun token => !(values.map (·.1)).contains token

/-- The rack that the tables describe. Every value in them has to have a text. -/
def build (values staged : Entries Value) (keyed : List KeyedSpec) : Rack :=
  (tokens values staged).map (tokenFilter values staged) ++ keyed.map keyedFilter

/-- The event of building a rack. -/
def built (rack : Rack) : Event :=
  .filtersBuilt rack.length
    (Selection.shown rack (.group (Selection.ofPositions rack.positions)))

end Rack

end Formulary
