/-
Formulary.Filter.Keyed — placeholders that carry a key.

One form serves a family of placeholders: an opening text, a key, and a closing text. The template
is cut into pieces in one pass from the left. A placeholder begins at the first place where the
opening text stands and a closing text follows on the same line; its key reaches to the first such
closing text. The pass goes on right behind it. Where the form has no text at all, so that nothing
would be read, the next character of the line is the key.
-/
import Formulary.Text.Basic

namespace Formulary

/-- The form of keyed placeholders: wrapper, token, separator, key, wrapper. -/
structure KeyedForm where
  token : Text := "attribute".toList
  separator : Text := [':']
  left : Text := ['\x7b']
  right : Text := ['\x7d']
deriving DecidableEq

namespace KeyedForm

/-- What stands before the key. -/
def opening (form : KeyedForm) : Text :=
  form.left ++ form.token ++ form.separator

/-- The placeholder with the given key. -/
def placeholder (form : KeyedForm) (key : Text) : Text :=
  form.opening ++ key ++ form.right

end KeyedForm

/-- A piece of a template: one character that belongs to no placeholder, or a placeholder. -/
inductive Piece
  | plain (c : Char)
  | keyed (key : Text)
deriving DecidableEq

namespace KeyedForm

/-- The text up to the first occurrence of `closing` on the same line. -/
def keyBefore? (closing : Text) : Text → Option Text
  | [] => if closing.isEmpty then some [] else none
  | c :: rest =>
    if closing.isPrefixOf (c :: rest) then some []
    else if c = '\n' then none
    else (keyBefore? closing rest).map (c :: ·)

/-- The key of the placeholder that the text begins with. -/
def key? (form : KeyedForm) (text : Text) : Option Text :=
  if form.opening.isPrefixOf text then
    keyBefore? form.right (text.drop form.opening.length)
  else none

/-- The piece that a character is for a form without any text of its own: a key, since an empty key
would get the pass nowhere, unless the character ends the line. -/
def bareKey (c : Char) : Piece :=
  if c = '\n' then .plain c else .keyed [c]

/-- The pieces of a template, after stepping over `skip` characters of a placeholder that has been
read. -/
def piecesFrom (form : KeyedForm) : Nat → Text → List Piece
  | _, [] => []
  | skip + 1, _ :: rest => piecesFrom form skip rest
  | 0, c :: rest =>
    match form.key? (c :: rest) with
    | some key =>
      let length := (form.placeholder key).length
      if length = 0 then bareKey c :: piecesFrom form 0 rest
      else .keyed key :: piecesFrom form (length - 1) rest
    | none => .plain c :: piecesFrom form 0 rest

/-- The pieces of a template. -/
def pieces (form : KeyedForm) (template : Text) : List Piece :=
  form.piecesFrom 0 template

/-- The text of a piece in the template. -/
def pieceText (form : KeyedForm) : Piece → Text
  | .plain c => [c]
  | .keyed key => form.placeholder key

end KeyedForm

/-! ## The form as a pattern -/

namespace Pattern

/-- The characters with a meaning of their own in a pattern, blanks included. -/
def special : Text :=
  "()[]".toList ++ ['\x7b', '\x7d'] ++ "?*+-|^$".toList ++ ['\x5c'] ++ ".&~# \t\n\r".toList
    ++ ['\x0b', '\x0c']

/-- A text as a pattern that matches only itself. -/
def literal (t : Text) : Text :=
  t.flatMap fun c => if special.contains c then ['\x5c', c] else [c]

end Pattern

/-- The form as a pattern with a lazy group for the key. -/
def KeyedForm.pattern (form : KeyedForm) : Text :=
  Pattern.literal form.opening ++ "(.*?)".toList ++ Pattern.literal form.right

end Formulary
