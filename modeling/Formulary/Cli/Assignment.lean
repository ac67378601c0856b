/-
Formulary.Cli.Assignment — assignments on the command line.

`TOKEN=VALUE` is cut at the last equals sign, so that tokens may hold equals signs and values may
not. `TOKEN:KEY=VALUE` is cut there first, and what stands before it at the first colon, so that
keys may hold colons and tokens may not. Tokens and keys are not empty.
-/
import Formulary.Text.Quoted

namespace Formulary

/-- A value for a token. -/
structure Assignment where
  token : Text
  value : Text
deriving DecidableEq

/-- A value for a key of a token. -/
structure KeyedAssignment where
  token : Text
  key : Text
  value : Text
deriving DecidableEq

/-- The form that a text does not have. -/
inductive AssignmentError
  | notAssignment (text : Text)
  | notKeyed (text : Text)
deriving DecidableEq

/-- The report of an assignment that is none. -/
def AssignmentError.message : AssignmentError → Text
  | .notAssignment text => "expected TOKEN=VALUE, got ".toList ++ Text.quoted text
  | .notKeyed text => "expected TOKEN:KEY=VALUE, got ".toList ++ Text.quoted text

/-- The assignment that a text stands for. -/
def Assignment.ofText (text : Text) : Except AssignmentError Assignment :=
  match Text.cutAtLast? '=' text with
  | some (token, value) =>
    if token.isEmpty then throw (.notAssignment text) else pure ⟨token, value⟩
  | none => throw (.notAssignment text)

/-- The text of an assignment. -/
def Assignment.toText (a : Assignment) : Text :=
  a.token ++ '=' :: a.value

/-- The keyed assignment that a text stands for. -/
def KeyedAssignment.ofText (text : Text) : Except AssignmentError KeyedAssignment := do
  let assignment ← Assignment.ofText text
  match Text.cutAtFirst? ':' assignment.token with
  | some (token, key) =>
    if token.isEmpty || key.isEmpty then throw (.notKeyed text)
    else pure ⟨token, key, assignment.value⟩
  | none => throw (.notKeyed text)

/-- The text of a keyed assignment. -/
def KeyedAssignment.toText (a : KeyedAssignment) : Text :=
  a.token ++ ':' :: a.key ++ '=' :: a.value

end Formulary
