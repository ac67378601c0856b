/-
Formulary.Text.CodePoint — sets of code points and maps on code points, written as rows of a table.

Character properties are data of a standard. A table is a list of rows of hexadecimal fields
separated by single blanks: a set has fields `41-5A` or `5F`, a map has fields `41-5A=61` (the run
goes to consecutive images) or `DF=53+53` (one code point goes to several). Rows are read once
into an array sorted by first code point, and a look-up is a binary search.
-/
import Formulary.Text.Basic

namespace Formulary.CodePoint

/-! ## Reading table fields -/

/-- The value of a hexadecimal digit; any other character counts as zero. -/
def hexDigitValue (c : Char) : Nat :=
  if '0' ≤ c ∧ c ≤ '9' then c.toNat - '0'.toNat
  else if 'a' ≤ c ∧ c ≤ 'f' then c.toNat - 'a'.toNat + 10
  else if 'A' ≤ c ∧ c ≤ 'F' then c.toNat - 'A'.toNat + 10
  else 0

/-- The number written by hexadecimal digits. -/
def hexNumber (digits : Text) : Nat :=
  digits.foldl (fun n c => 16 * n + hexDigitValue c) 0

/-- A run of consecutive code points together with the image of the first of them: empty in a
table that only describes a set. -/
structure Run where
  first : Nat
  last : Nat
  image : List Nat

/-- One field of a table row. -/
def Run.ofField (field : Text) : Run :=
  let (span, image) := (Text.cutAtFirst? '=' field).getD (field, [])
  let (first, last) := (Text.cutAtFirst? '-' span).getD (span, span)
  { first := hexNumber first
    last := hexNumber last
    image := if image.isEmpty then [] else (Text.fields '+' image).map hexNumber }

/-- A table of runs in increasing order. -/
abbrev Table := Array Run

/-- The table written by the given rows. -/
def Table.ofRows (rows : List String) : Table :=
  (rows.flatMap fun row => (Text.fields ' ' row.toList).map Run.ofField).toArray

/-! ## Looking up -/

/-- Binary search for the run that holds `n`, among the runs with index from `low` to below
`high`. -/
def Table.search (table : Table) (n low high : Nat) : Option Run :=
  if low < high then
    let middle := (low + high) / 2
    match table[middle]? with
    | none => none
    | some run =>
      if n < run.first then table.search n low middle
      else if run.last < n then table.search n (middle + 1) high
      else some run
  else
    none
termination_by high - low

/-- The run that holds the code point. -/
def Table.find? (table : Table) (n : Nat) : Option Run :=
  table.search n 0 table.size

/-- Whether the code point lies in one of the runs. -/
def Table.contains (table : Table) (n : Nat) : Bool :=
  (table.find? n).isSome

/-- The image of the code point, if the table maps it. A run of several code points has a single
image, which moves along with the code point. -/
def Table.image? (table : Table) (n : Nat) : Option (List Nat) :=
  (table.find? n).map fun run =>
    match run.image with
    | [target] => [target + (n - run.first)]
    | several => several

end Formulary.CodePoint
