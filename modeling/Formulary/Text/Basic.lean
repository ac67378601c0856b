/-
Formulary.Text.Basic — templates, tokens and replacement texts, and how a literal token is replaced.

A text is a list of characters, so that every scan below is a recursion over the list and a law
about it is an induction over the list. The scans are *leftmost and non-overlapping*: once an
occurrence has been taken the scan goes on right behind it, and text that was put in is never
looked at again. The scan keeps a count of the characters still to be skipped, which makes it
structural; `replaceFrom_eq_drop` says that the count means exactly "begin that much later".
-/
namespace Formulary

/-- A text is the list of its characters (code points). Half of a surrogate pair is no character and
stands in no text. -/
abbrev Text := List Char

namespace Text

/-! ## Literal occurrences -/

/-- Scan for a non-empty `token`, after stepping over `skip` characters of an occurrence that has
already been replaced. -/
def replaceFrom (token new : Text) : Nat → Text → Text
  | _, [] => []
  | skip + 1, _ :: rest => replaceFrom token new skip rest
  | 0, c :: rest =>
    if token.isPrefixOf (c :: rest) then
      new ++ replaceFrom token new (token.length - 1) rest
    else
      c :: replaceFrom token new 0 rest

/-- Every leftmost, non-overlapping occurrence of `token` in the text replaced by `new`. An empty
token occurs before every character and once more at the end. -/
def replaceAll (token new text : Text) : Text :=
  if token.isEmpty then
    text.flatMap (fun c => new ++ [c]) ++ new
  else
    replaceFrom token new 0 text

/-- The skip count of the scan is a later start. -/
theorem replaceFrom_eq_drop (token new : Text) (skip : Nat) (text : Text) :
    replaceFrom token new skip text = replaceFrom token new 0 (text.drop skip) := by
  induction text generalizing skip with
  | nil => simp [replaceFrom]
  | cons c rest ih =>
    cases skip with
    | zero => rfl
    | succ n => simp only [replaceFrom, List.drop_succ_cons]; exact ih n

/-! ## Cutting at a separator -/

/-- The parts before and behind the first `mark`, when there is one. -/
def cutAtFirst? (mark : Char) : Text → Option (Text × Text)
  | [] => none
  | c :: rest =>
    if c = mark then some ([], rest)
    else (cutAtFirst? mark rest).map fun (before, behind) => (c :: before, behind)

/-- The parts before and behind the last `mark`, when there is one. -/
def cutAtLast? (mark : Char) : Text → Option (Text × Text)
  | [] => none
  | c :: rest =>
    match cutAtLast? mark rest with
    | some (before, behind) => some (c :: before, behind)
    | none => if c = mark then some ([], rest) else none

/-- The fields between the marks; a text without a mark is its own single field. -/
def fields (mark : Char) : Text → List Text
  | [] => [[]]
  | c :: rest =>
    if c = mark then [] :: fields mark rest
    else
      match fields mark rest with
      | [] => [[c]]
      | first :: others => (c :: first) :: others

/-- The texts one behind another with `separator` between neighbours. -/
def join (separator : Text) : List Text → Text
  | [] => []
  | [t] => t
  | t :: u :: rest => t ++ separator ++ join separator (u :: rest)

end Text

end Formulary
