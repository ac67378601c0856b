/-
Formulary.Expr.Quotation — quotations at the head of a text.

A quotation stands between single or double quotes, or between three of them; only the latter may
run over line ends. Letters in front choose its kind: raw (escapes stay), bytes (ASCII only), or
formatted, which holds expressions between braces. The expressions of a formatted text are cut out
here as texts; whether each of them is an expression is for the grammar to say.
-/
import Formulary.Expr.Numeral

namespace Formulary.Quotation

/-! ## Style and extent -/

/-- What the letters in front of a quotation say. -/
structure Style where
  raw : Bool
  bytes : Bool
  formatted : Bool

/-- The style that a prefix of letters stands for. -/
def Style.ofLetters? (letters : Text) : Option Style :=
  match String.ofList (letters.map Char.toLower) with
  | "" => some ⟨false, false, false⟩
  | "u" => some ⟨false, false, false⟩
  | "r" => some ⟨true, false, false⟩
  | "b" => some ⟨false, true, false⟩
  | "f" => some ⟨false, false, true⟩
  | "br" => some ⟨true, true, false⟩
  | "rb" => some ⟨true, true, false⟩
  | "fr" => some ⟨true, false, true⟩
  | "rf" => some ⟨true, false, true⟩
  | _ => none

/-- Whether a character is one of the two quotes. -/
def isQuote (c : Char) : Bool :=
  c == Text.singleQuote || c == Text.doubleQuote

/-- The style of the quotation that begins with the text: its letters are followed by a quote. -/
def style? (text : Text) : Option (Style × Text × Text) :=
  let letters := text.takeWhile Char.isAlpha
  let behind := text.dropWhile Char.isAlpha
  match behind with
  | c :: _ => if isQuote c then (Style.ofLetters? letters).map (·, letters, behind) else none
  | [] => none

/-- The text up to the closing quotes. A backslash takes the next character with it; a line end is
allowed between triple quotes only. -/
def body? (closing : Text) (multiline : Bool) : Text → Option Text
  | [] => none
  | c :: rest =>
    if closing.isPrefixOf (c :: rest) then some []
    else if c = '\n' ∧ !multiline then none
    else if c = Text.backslash then
      match rest with
      | [] => none
      | d :: tail => (body? closing multiline tail).map fun body => c :: d :: body
    else
      (body? closing multiline rest).map (c :: ·)

/-! ## Escapes -/

/-- Exactly `count` hexadecimal digits at the head of a text, as a number. -/
def hexEscape? (count : Nat) (text : Text) : Option Nat :=
  let digits := text.take count
  if digits.length = count && digits.all (Numeral.isDigitOf 16) then
    some (CodePoint.hexNumber digits)
  else none

/-- Up to three octal digits at the head of a text: the number and how many there are. -/
def octalEscape (text : Text) : Nat × Nat :=
  let digits := (text.take 3).takeWhile (Numeral.isDigitOf 8)
  (digits.foldl (fun n c => 8 * n + (c.toNat - '0'.toNat)) 0, digits.length)

/-- The single-character escapes that texts and byte strings share. -/
def simpleEscape? (c : Char) : Option (List Nat) :=
  if c = '\n' then some []
  else if c = Text.backslash ∨ isQuote c then some [c.toNat]
  else if c = 'a' then some [7]
  else if c = 'b' then some [8]
  else if c = 't' then some [9]
  else if c = 'n' then some [10]
  else if c = 'v' then some [11]
  else if c = 'f' then some [12]
  else if c = 'r' then some [13]
  else none

/-- The codes for the escape behind a backslash, and how many characters it takes. An unknown
escape stands for itself, backslash included; characters cannot be called by name. -/
def escape? (bytes : Bool) (behind : Text) : Option (List Nat × Nat) :=
  match behind with
  | [] => none
  | c :: rest =>
    match simpleEscape? c with
    | some codes => some (codes, 1)
    | none =>
      if Numeral.isDigitOf 8 c then
        let (value, length) := octalEscape behind
        some ([if bytes then value % 256 else value], length)
      else if c = 'x' then (hexEscape? 2 rest).map fun n => ([n], 3)
      else if bytes then some ([Text.backslash.toNat, c.toNat], 1)
      else if c = 'u' then (hexEscape? 4 rest).map fun n => ([n], 5)
      else if c = 'U' then
        (hexEscape? 8 rest).bind fun n => if n ≤ 0x10FFFF then some ([n], 9) else none
      else if c = 'N' then none
      else some ([Text.backslash.toNat, c.toNat], 1)

/-- The codes of a text with its escapes resolved, after stepping over `skip` characters of an
escape that has been read. -/
def resolve? (bytes : Bool) : Nat → Text → Option (List Nat)
  | _, [] => some []
  | skip + 1, _ :: rest => resolve? bytes skip rest
  | 0, c :: rest =>
    if c = Text.backslash then do
      let (codes, length) ← escape? bytes rest
      let more ← resolve? bytes length rest
      some (codes ++ more)
    else
      (resolve? bytes 0 rest).map (c.toNat :: ·)

/-! ## Formatted texts -/

/-- Whether a character is one of the two braces. -/
def isBrace (c : Char) : Bool :=
  c == '\x7b' || c == '\x7d'

/-- The plain part of a formatted text up to a brace that opens or closes a field, and the text from
that brace on. Outside of a layout (`nested` is false) a doubled brace is a plain one, and a single
closing brace is malformed. -/
def plainPart? (raw nested : Bool) : Text → Option (Text × Text)
  | [] => some ([], [])
  | c :: rest =>
    if isBrace c then
      match rest with
      | d :: tail =>
        if nested then some ([], c :: rest)
        else if d = c then
          (plainPart? raw nested tail).map fun (plain, behind) => (c :: plain, behind)
        else if c = '\x7d' then none
        else some ([], c :: rest)
      | [] => if !nested ∧ c = '\x7d' then none else some ([], c :: rest)
    else if c = Text.backslash ∧ !raw ∧ !rest.head?.any isBrace then
      match rest with
      | d :: tail =>
        (plainPart? raw nested tail).map fun (plain, behind) => (c :: d :: plain, behind)
      | [] => some ([c], [])
    else
      (plainPart? raw nested rest).map fun (plain, behind) => (c :: plain, behind)

/-- Where the scan of an embedded expression stands: inside a quotation closed by `quote`, or not,
and inside the brackets whose closing symbols are `pending`. -/
structure FieldState where
  quote : Text
  pending : Text

/-- The bracket that closes this one. -/
def closingBracket? (c : Char) : Option Char :=
  if c = '(' then some ')'
  else if c = '[' then some ']'
  else if c = '\x7b' then some '\x7d'
  else none

/-- The text of an embedded expression and the text behind it, which begins with the character that
ended it. Outside quotations and brackets it ends at a closing brace, an exclamation mark, a colon
or an equals sign, unless these belong to a comparison. Backslashes and comments are not allowed. -/
def fieldText? (state : FieldState) : Nat → Text → Option (Text × Text)
  | _, [] => none
  | skip + 1, c :: rest => (fieldText? state skip rest).map fun (t, behind) => (c :: t, behind)
  | 0, c :: rest =>
    let go (state : FieldState) (skip : Nat) : Option (Text × Text) :=
      (fieldText? state skip rest).map fun (t, behind) => (c :: t, behind)
    if c = Text.backslash then none
    else if !state.quote.isEmpty then
      if state.quote.isPrefixOf (c :: rest) then
        go ⟨[], state.pending⟩ (state.quote.length - 1)
      else go state 0
    else if isQuote c then
      if [c, c].isPrefixOf rest then go ⟨[c, c, c], state.pending⟩ 2 else go ⟨[c], state.pending⟩ 0
    else if c = '#' then none
    else
      match closingBracket? c with
      | some closing =>
        if 200 ≤ state.pending.length then none else go ⟨[], closing :: state.pending⟩ 0
      | none =>
        if state.pending.isEmpty && ['!', ':', '\x7d', '=', '<', '>'].contains c then
          if rest.head? == some '=' && ['!', '=', '<', '>'].contains c then go state 1
          else if c = '<' ∨ c = '>' then go state 0
          else some ([], c :: rest)
        else if c = ')' ∨ c = ']' ∨ c = '\x7d' then
          match state.pending with
          | expected :: others => if c = expected then go ⟨[], others⟩ 0 else none
          | [] => none
        else go state 0

/-- Blanks inside an embedded expression. -/
def isFieldBlank (c : Char) : Bool :=
  c == ' ' || c == '\t' || c == '\n' || c == '\x0c'

/-- Blanks that may follow the equals sign of a self-describing field. -/
def isLooseBlank (c : Char) : Bool :=
  isFieldBlank c || c == '\x0b' || c == '\r'

/-- What follows an embedded expression, up to its layout or its closing brace: an equals sign, then
a conversion. -/
def fieldMarks? (behind : Text) : Option Text :=
  let behind := match behind with
    | '=' :: rest => rest.dropWhile isLooseBlank
    | rest => rest
  match behind with
  | '!' :: c :: rest => if c = 's' ∨ c = 'r' ∨ c = 'a' then some rest else none
  | '!' :: [] => none
  | rest => some rest

/-- The embedded expressions of a formatted text, each between parentheses, and the text behind the
part that has been read: nothing, or a closing brace in a layout. A layout may hold fields again,
but only one level deep. -/
def fields? (raw : Bool) : Nat → Nat → Text → Option (List Text × Text)
  | 0, _, _ => none
  | fuel + 1, level, body => do
    let (plain, behind) ← plainPart? raw (0 < level) body
    let _ ← if raw then some [] else resolve? false 0 plain
    match behind with
    | '\x7b' :: rest =>
      if 2 ≤ level then none
      else
        let (expression, behind) ← fieldText? ⟨[], []⟩ 0 rest
        if expression.all isFieldBlank then none
        else
          let behind ← fieldMarks? behind
          let (inner, behind) ← match behind with
            | ':' :: layout => fields? raw fuel (level + 1) layout
            | other => some ([], other)
          match behind with
          | '\x7d' :: rest =>
            let (more, behind) ← fields? raw fuel level rest
            some (('(' :: expression ++ [')']) :: inner ++ more, behind)
          | _ => none
    | _ => some ([], behind)

/-! ## Reading -/

/-- The meaning of the text between the quotes. -/
def ofBody? (style : Style) (body : Text) : Option Quotation :=
  if style.formatted then
    match fields? style.raw (body.length + 1) 0 body with
    | some (fields, []) => some (.formatted fields)
    | _ => none
  else if style.bytes then
    if body.any fun c => 0x80 ≤ c.toNat then none
    else if style.raw then some (.bytes (body.map Char.toNat))
    else (resolve? true 0 body).map .bytes
  else if style.raw then some (.text (body.map Char.toNat))
  else (resolve? false 0 body).map .text

/-- The quotation at the head of a text that `style?` has recognised, and its number of
characters. -/
def read? (style : Style) (letters behind : Text) : Option (Quotation × Nat) :=
  match behind with
  | [] => none
  | quote :: _ =>
    let triple := [quote, quote, quote].isPrefixOf behind
    let closing := if triple then [quote, quote, quote] else [quote]
    do
      let body ← body? closing triple (behind.drop closing.length)
      let quotation ← ofBody? style body
      some (quotation, letters.length + 2 * closing.length + body.length)

end Formulary.Quotation
