/-
Formulary.Expr.Scan — formula text cut into tokens.

The scan goes through the text once. It knows the brackets that are open, and whether it stands at
the beginning of a line: outside brackets a line end closes the expression, and a first line that
is indented is malformed. Inside brackets line ends are blanks. A comment runs to the end of its
line; a backslash at the end of a line joins the next one.
-/
import Formulary.Expr.Quotation
import Formulary.Text.Identifier
import Formulary.Text.Compatibility

namespace Formulary.Token

/-- Where the scan stands on its line. At the beginning of a line the indentation counts: the column
that blanks have reached, or the column of the first joined line, if that was not zero. -/
inductive Place
  | lineStart (column joined : Nat)
  | within
deriving DecidableEq

namespace Place

/-- The place behind a blank. A tabulator goes to the next multiple of eight, a form feed back to
the margin. -/
def afterBlank (c : Char) : Place → Place
  | .within => .within
  | .lineStart column joined =>
    if c = '\t' then .lineStart ((column / 8 + 1) * 8) joined
    else if c = '\x0c' then .lineStart 0 joined
    else .lineStart (column + 1) joined

/-- The place behind a joined line end. -/
def afterJoin : Place → Place
  | .within => .within
  | .lineStart column joined => .lineStart column (if joined = 0 then column else joined)

/-- Whether a token at this place would be indented. -/
def isIndented : Place → Bool
  | .within => false
  | .lineStart column joined => (if joined = 0 then column else joined) != 0

end Place

/-- Blanks between tokens. -/
def isSpace (c : Char) : Bool :=
  c == ' ' || c == '\t' || c == '\x0c'

/-- Whether a word may begin with the character; beyond ASCII that is settled when the word has been
read. -/
def isWordStart (c : Char) : Bool :=
  Text.isAsciiNameStart c || 0x80 ≤ c.toNat

/-- A word: a reserved one, or a name in its normal form. -/
def ofWord? (word : Text) : Option Token :=
  match Keyword.ofWord? word with
  | some reserved => some (.keyword reserved)
  | none => if Text.isName word then some (.name (Text.normalForm word)) else none

/-- The token at the head of a text that begins with no blank, and its number of characters. -/
def read? (text : Text) : Option (Token × Nat) :=
  match text with
  | [] => none
  | c :: rest =>
    match Quotation.style? text with
    | some (style, letters, behind) =>
      (Quotation.read? style letters behind).map fun (q, length) => (.quotation q, length)
    | none =>
      if isWordStart c then
        let word := text.takeWhile Numeral.isWordPart
        (ofWord? word).map fun token => (token, word.length)
      else if c.isDigit || (c == '.' && rest.head?.any Char.isDigit) then
        (Numeral.read? text).map fun (value, length) => (.number value, length)
      else
        (Symbol.read? text).map fun (mark, length) => (.symbol mark, length)

/-- The greatest number of brackets open at once. -/
def maxNesting : Nat := 200

/-- The brackets that are open behind a token, as the symbols that will close them. -/
def nesting? (pending : List Symbol) : Token → Option (List Symbol)
  | .symbol mark =>
    match mark.closing? with
    | some closing => if maxNesting ≤ pending.length then none else some (closing :: pending)
    | none =>
      if mark.isClosing then
        match pending with
        | expected :: others => if mark = expected then some others else none
        | [] => none
      else some pending
  | _ => some pending

/-- The tokens of a text, after stepping over `skip` characters of a token or comment that has been
read. All brackets must be closed at the end. -/
def scan? : Nat → Place → List Symbol → Text → Option (List Token)
  | _, _, pending, [] => if pending.isEmpty then some [] else none
  | skip + 1, place, pending, _ :: rest => scan? skip place pending rest
  | 0, place, pending, c :: rest =>
    if isSpace c then scan? 0 (place.afterBlank c) pending rest
    else if c = '#' then scan? (rest.takeWhile (· != '\n')).length place pending rest
    else if c = '\n' then
      let tokens := scan? 0 (.lineStart 0 0) pending rest
      if place == .within && pending.isEmpty then tokens.map (.lineEnd :: ·) else tokens
    else if c = Text.backslash then
      match rest with
      | '\n' :: _ :: _ => scan? 1 place.afterJoin pending rest
      | _ => none
    else if place.isIndented && pending.isEmpty then none
    else do
      let (token, length) ← read? (c :: rest)
      let pending ← nesting? pending token
      let tokens ← scan? (length - 1) .within pending rest
      some (token :: tokens)

/-- All line ends in the one form that the scan knows: a line feed, a carriage return, or a return
with a feed behind it. `afterReturn` says that a return has just been read. -/
def unifyLineEnds (afterReturn : Bool) : Text → Text
  | [] => []
  | c :: rest =>
    if c = '\r' then '\n' :: unifyLineEnds true rest
    else if c = '\n' ∧ afterReturn then unifyLineEnds false rest
    else c :: unifyLineEnds false rest

/-- The tokens of formula text. -/
def ofText? (text : Text) : Option (List Token) :=
  scan? 0 (.lineStart 0 0) [] (unifyLineEnds false text)

end Formulary.Token
