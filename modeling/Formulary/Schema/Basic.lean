/-
Formulary.Schema.Basic — readers of data.

A reader turns a value into data of one kind. The readers are lenient where nothing is lost: a whole
number may arrive as a number without a fraction, as a truth value or as a text; a truth value as
zero, one or one of a few words. Texts, lists and records are never made out of something else. The
readers for compound data look at all parts, in order.
-/
import Formulary.Build
import Formulary.Schema.Problem
import Formulary.Text.Digit
import Formulary.Text.Uppercase

namespace Formulary.Schema

-- Powers are those of the core library, also where an algebraic hierarchy offers its own.
attribute [local instance (high)] instPowNat

/-- A reader of data of one kind. -/
abbrev Reader (α : Type) := Value → Checked α

/-! ## Texts and numbers -/

/-- A text. -/
def text : Reader Text
  | .text t => .accepted t
  | _ => .mismatched .notText

/-- The text without a fraction of zeros at its end. -/
def withoutZeroFraction (t : Text) : Text :=
  match Text.cutAtFirst? '.' t with
  | some (whole, fraction) => if fraction.all (· == '0') then whole else t
  | none => t

/-- The natural number written in ASCII digits, with single underscores between digits and at most
a fraction of zeros. -/
def naturalOfText? (t : Text) : Option Nat :=
  let digits := withoutZeroFraction t
  if digits.all fun c => c.isDigit || c == '_' then Text.readNatural? digits else none

/-- The integer that a text stands for, with an optional sign, between margins. -/
def integerOfText? (t : Text) : Option Int :=
  match Text.withoutMargins t with
  | '-' :: digits => (naturalOfText? digits).map fun n => -(n : Int)
  | '+' :: digits => (naturalOfText? digits).map fun n => (n : Int)
  | digits => (naturalOfText? digits).map fun n => (n : Int)

/-- The greatest number of digits of an integer that arrives as a text. -/
def maxIntegerDigits : Nat := 4300

/-- An integer from a text. -/
def integerOfText (t : Text) : Checked Int :=
  match integerOfText? t with
  | none => .mismatched .notIntegerText
  | some n => if maxIntegerDigits < t.length then .mismatched .tooLargeInteger else .accepted n

/-- An integer from a double without a fraction, if a machine word can hold it. -/
def integerOfFloat (x : Float) : Checked Int :=
  match Binary.ofFloat? x with
  | none => .mismatched .notFinite
  | some b =>
    if !b.isWhole then .mismatched .fractional
    else if -(2 ^ (63 : Nat)) < b.floor ∧ b.floor < 2 ^ (63 : Nat) then .accepted b.floor
    else .mismatched .tooLargeInteger

/-- An integer. -/
def integer : Reader Int
  | .int n => .accepted n
  | .bool b => .accepted (if b then 1 else 0)
  | .float x => integerOfFloat x
  | .text t => integerOfText t
  | _ => .mismatched .notInteger

/-- The truth value of a word, in letters of any case. -/
def truthOfText? (t : Text) : Option Bool :=
  let word := String.ofList (Text.asciiLowercase t)
  if ["1", "t", "y", "on", "yes", "true"].contains word then some true
  else if ["0", "f", "n", "off", "no", "false"].contains word then some false
  else none

/-- The truth value of a number: of one, or of zero. -/
def truthOfInteger (n : Int) : Checked Bool :=
  if n = 1 then .accepted true
  else if n = 0 then .accepted false
  else .mismatched .notTruthName

/-- A truth value. -/
def truth : Reader Bool
  | .bool b => .accepted b
  | .int n => truthOfInteger n
  | .float x =>
    match integerOfFloat x with
    | .accepted n => truthOfInteger n
    | .refused _ => .mismatched .notTruth
  | .text t =>
    match truthOfText? t with
    | some b => .accepted b
    | none => .mismatched .notTruthName
  | _ => .mismatched .notTruth

/-- A number or a text. A truth value counts as the integer; anything else has a problem with each
of the three kinds. -/
def scalar : Reader Scalar
  | .int n => .accepted (.int n)
  | .bool b => .accepted (.int (if b then 1 else 0))
  | .float x => .accepted (.float x)
  | .text t => .accepted (.text t)
  | _ =>
    .refused
      [⟨[.field "int".toList], .notInteger⟩, ⟨[.field "float".toList], .notNumber⟩,
        ⟨[.field "str".toList], .notText⟩]

/-! ## Compound data -/

/-- The elements of a list from a position on. -/
def elementsFrom {α : Type} (item : Reader α) : Nat → List Value → Checked (List α)
  | _, [] => .accepted []
  | i, v :: rest =>
    List.cons <$> (item v).within (.element i) <*> elementsFrom item (i + 1) rest

/-- A list of data of one kind. -/
def list {α : Type} (item : Reader α) : Reader (List α)
  | .list items => elementsFrom item 0 items
  | _ => .mismatched .notList

/-- The entries of a table. -/
def entries {α : Type} (item : Reader α) : List (Text × Value) → Checked (Entries α)
  | [] => .accepted []
  | (name, v) :: rest =>
    (fun data more => (name, data) :: more) <$> (item v).within (.field name) <*> entries item rest

/-- A table from names to data of one kind. -/
def table {α : Type} (item : Reader α) : Reader (Entries α)
  | .record fields => entries item (Entries.ofPairs fields)
  | _ => .mismatched .notTable

/-- An element that has to be there. -/
def presentElement {α : Type} (item : Reader α) (i : Nat) (v : Option Value) : Checked α :=
  Checked.within (.element i) (match v with
    | some v => item v
    | none => .mismatched .missing)

/-- Two data of one kind. -/
def pair {α : Type} (item : Reader α) : Reader (α × α)
  | .list items =>
    if 2 < items.length then .mismatched (.tooLong 2 items.length)
    else Prod.mk <$> presentElement item 0 items[0]? <*> presentElement item 1 items[1]?
  | _ => .mismatched .notTuple

/-! ## Records -/

/-- The fields of a record. -/
abbrev Fields := List (Text × Value)

/-- A record, read by its fields; fields that nobody asks for are ignored. -/
def record {α : Type} (read : Fields → Checked α) : Reader α
  | .record fields => read fields
  | _ => .mismatched .notRecord

/-- A field that has to be there. -/
def required {α : Type} (fields : Fields) (name : String) (item : Reader α) : Checked α :=
  Checked.within (.field name.toList) (match Value.field? name (.record fields) with
    | some v => item v
    | none => .mismatched .missing)

/-- A field that may be absent. -/
def optional {α : Type} (fields : Fields) (name : String) (item : Reader α) (absent : α) :
    Checked α :=
  match Value.field? name (.record fields) with
  | some v => (item v).within (.field name.toList)
  | none => .accepted absent

end Formulary.Schema
