/-
Formulary.Placeholder — fragments that look like placeholders.

A fragment is a pair of braces with no brace between them. Fragments never overlap, so it does not
matter from where the text is searched: a fragment begins at every opening brace whose next brace
is a closing one.
-/
import Formulary.Text.Basic

namespace Formulary.Placeholder

/-- Whether a character is a brace. -/
def isBrace (c : Char) : Bool :=
  c == '\x7b' || c == '\x7d'

/-- The text up to the next brace, if that is a closing one; the text stands behind an opening
brace. -/
def nameBefore? : Text → Option Text
  | [] => none
  | c :: rest =>
    if c = '\x7d' then some []
    else if c = '\x7b' then none
    else (nameBefore? rest).map (c :: ·)

/-- The fragment with the given inner text. -/
def fragment (name : Text) : Text :=
  '\x7b' :: name ++ ['\x7d']

/-- All fragments of a text, in order, with repetitions. -/
def occurrences : Text → List Text
  | [] => []
  | c :: rest =>
    if c = '\x7b' then
      match nameBefore? rest with
      | some name => fragment name :: occurrences rest
      | none => occurrences rest
    else occurrences rest

/-- The fragments of a text in the order of their first occurrence. -/
def unresolved (text : Text) : List Text :=
  (occurrences text).eraseDups

end Formulary.Placeholder
