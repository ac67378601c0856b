/-
Formulary.Replacement — which values may be put into a template, and as what text.

A missing value must never leak into a template, neither as nothing nor as the word for nothing in
some notation. So a replacement is a non-empty text other than those words. Values become texts
first: a missing one stays missing, truth values are written small, all else as usual.
-/
import Formulary.Value

namespace Formulary.Replacement

/-- The words for a missing value. -/
def missingWords : List Text :=
  ["undefined", "null", "None"].map String.toList

/-- Whether a text may be put into a template. -/
def isValidText (t : Text) : Bool :=
  !t.isEmpty && !missingWords.contains t

/-- Whether a value is a text that may be put into a template. -/
def isValid : Value → Bool
  | .text t => isValidText t
  | _ => false

/-- The text of a value that a replacer gave, if there is a value. -/
def ofValue : Value → Option Text
  | .null => none
  | .bool true => some "true".toList
  | .bool false => some "false".toList
  | other => some other.toText

/-- The text, if it may be put into a template. -/
def accepted? : Option Text → Option Text
  | some t => if isValidText t then some t else none
  | none => none

/-- How diagnostics show a replacement that may be missing. -/
def shown : Option Text → Text
  | some t => Text.quoted t
  | none => Value.shown .null

end Formulary.Replacement
