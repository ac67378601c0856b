/-
Formulary.Value — dynamic values, and the texts they become.

Replacements, requests and settings arrive as values whose kind is known only when they are looked
at. A value has two texts: the one that is put into a template, in which a text stands for itself,
and the one that diagnostics show, in which texts are quoted. Inside lists and records values are
always shown. Only a value with an integer of very many digits in it has neither: `hasText` tells.
-/
import Formulary.Number.Layout
import Formulary.Text.Quoted

namespace Formulary

/-- A value of a kind that is known when it is looked at. The fields of a record keep their
order. -/
inductive Value
  | null
  | bool (b : Bool)
  | int (n : Int)
  | float (x : Float)
  | text (t : Text)
  | list (items : List Value)
  | record (fields : List (Text × Value))

namespace Value

/-- The name of the kind of a value in diagnostics. -/
def kind : Value → String
  | .null => "NoneType"
  | .bool _ => "bool"
  | .int _ => "int"
  | .float _ => "float"
  | .text _ => "str"
  | .list _ => "list"
  | .record _ => "dict"

/-- Whether a value is a number: an integer or not, or a truth value, which counts as one. -/
def isNumber : Value → Bool
  | .bool _ | .int _ | .float _ => true
  | _ => false

mutual

/-- A value as diagnostics show it. -/
def shown : Value → Text
  | .null => "None".toList
  | .bool true => "True".toList
  | .bool false => "False".toList
  | .int n => Number.intText n
  | .float x => Number.floatText x
  | .text t => Text.quoted t
  | .list items => '[' :: shownItems items ++ [']']
  | .record fields => '\x7b' :: shownFields fields ++ ['\x7d']

/-- List items as diagnostics show them, with commas between. -/
def shownItems : List Value → Text
  | [] => []
  | [v] => shown v
  | v :: rest => shown v ++ ", ".toList ++ shownItems rest

/-- Record fields as diagnostics show them, with commas between. -/
def shownFields : List (Text × Value) → Text
  | [] => []
  | [(name, v)] => Text.quoted name ++ ": ".toList ++ shown v
  | (name, v) :: rest =>
    Text.quoted name ++ ": ".toList ++ shown v ++ ", ".toList ++ shownFields rest

end

/-- The text that a value becomes in a template: a text itself, anything else as it is shown. -/
def toText : Value → Text
  | .text t => t
  | other => other.shown

mutual

/-- Whether there is a text of the value: no integer in it has more digits than can be written. -/
def hasText : Value → Bool
  | .int n => (Number.natText n.natAbs).length ≤ Number.maxDigits
  | .list items => allHaveText items
  | .record fields => fieldsHaveText fields
  | _ => true

/-- Whether there is a text of every item. -/
def allHaveText : List Value → Bool
  | [] => true
  | v :: rest => hasText v && allHaveText rest

/-- Whether there is a text of the value of every field. -/
def fieldsHaveText : List (Text × Value) → Bool
  | [] => true
  | (_, v) :: rest => hasText v && fieldsHaveText rest

end

/-- The field of a record. -/
def field? (name : String) : Value → Option Value
  | .record fields => (fields.find? fun f => f.1 == name.toList).map fun f => f.2
  | _ => none

end Value

end Formulary
