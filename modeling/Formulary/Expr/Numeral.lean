/-
Formulary.Expr.Numeral — numerals at the head of a text.

A numeral is decimal, hexadecimal, octal or binary; digits may be grouped by single underscores. A
decimal one becomes a double by a point or an exponent, and imaginary by a final `j`. A decimal
integer has no leading zeros unless it is zero, and at most 4300 digits. Right behind a numeral no
letter may follow, unless it begins one of the words that can stand behind a number.
-/
import Formulary.Expr.Token
import Formulary.Number.Reading

namespace Formulary.Numeral

/-- The largest number of digits of a decimal integer that does not begin with a zero. -/
def maxDigits : Nat := Number.maxDigits

/-- Digits of the class `ok`, grouped by single underscores, at the head of a text: the digits, the
number of characters, and the text behind them. An underscore without a digit behind it spoils
the numeral. -/
def digitRun? (ok : Char → Bool) : Text → Option (Text × Nat × Text)
  | [] => some ([], 0, [])
  | [c] =>
    if c = '_' then none
    else if ok c then some ([c], 1, [])
    else some ([], 0, [c])
  | c :: d :: rest =>
    if c = '_' then
      if ok d then
        (digitRun? ok (d :: rest)).map fun (digits, length, behind) => (digits, length + 1, behind)
      else none
    else if ok c then
      (digitRun? ok (d :: rest)).map fun (digits, length, behind) =>
        (c :: digits, length + 1, behind)
    else some ([], 0, c :: d :: rest)

/-- Whether a character can belong to a word or a numeral; beyond ASCII every character counts. -/
def isWordPart (c : Char) : Bool :=
  c.isAlphanum || c == '_' || 0x80 ≤ c.toNat

/-- The beginnings of words that may stand right behind a number. -/
def wordsBehind : List Text :=
  ["and", "else", "for", "if", "in", "is", "or", "not"].map String.toList

/-- Whether a numeral may end before this text. -/
def mayEndBefore (behind : Text) : Bool :=
  match behind with
  | [] => true
  | c :: _ => !isWordPart c || wordsBehind.any (·.isPrefixOf behind)

/-- Whether a character is a digit of the base. -/
def isDigitOf (base : Nat) (c : Char) : Bool :=
  if base = 16 then
    c.isDigit || ('a' ≤ c && c ≤ 'f') || ('A' ≤ c && c ≤ 'F')
  else '0' ≤ c && c.toNat < '0'.toNat + base

/-- The base that a letter behind a leading zero announces. -/
def baseOf? (c : Char) : Option Nat :=
  if c = 'x' ∨ c = 'X' then some 16
  else if c = 'o' ∨ c = 'O' then some 8
  else if c = 'b' ∨ c = 'B' then some 2
  else none

/-- The digits behind the mark of a base. -/
def inBase? (base : Nat) (text : Text) : Option (Literal × Nat) := do
  let (digits, length, behind) ← digitRun? (isDigitOf base) text
  if digits.isEmpty || !mayEndBefore behind then none
  else
    let value := digits.foldl (fun n c => base * n + CodePoint.hexDigitValue c) 0
    some (.int value, length + 2)

/-- The exponent at the head of a text: its value, its number of characters and the text behind.
Without digits there is no exponent, and the letter is left where it is. -/
def exponent? (text : Text) : Option (Option Int × Nat × Text) :=
  match text with
  | mark :: rest =>
    if mark ≠ 'e' ∧ mark ≠ 'E' then some (none, 0, text)
    else
      let (signLength, negative, digitsText) := match rest with
        | '+' :: tail => (1, false, tail)
        | '-' :: tail => (1, true, tail)
        | tail => (0, false, tail)
      match digitsText with
      | d :: _ =>
        if d.isDigit then do
          let (digits, length, behind) ← digitRun? Char.isDigit digitsText
          let value : Int := Number.digitsValue digits
          some (some (if negative then -value else value), length + signLength + 1, behind)
        else if signLength = 0 then some (none, 0, text) else none
      | [] => if signLength = 0 then some (none, 0, text) else none
  | [] => some (none, 0, [])

/-- The fraction at the head of a text, which a point begins: its digits, if there is a point, the
number of characters and the text behind. -/
def fraction? (text : Text) : Option (Option Text × Nat × Text) :=
  match text with
  | '.' :: rest =>
    match rest with
    | d :: _ =>
      if d.isDigit then
        (digitRun? Char.isDigit rest).map fun (digits, length, behind) =>
          (some digits, length + 1, behind)
      else some (some [], 1, rest)
    | [] => some (some [], 1, [])
  | _ => some (none, 0, text)

/-- The integer with these decimal digits: a leading zero only in front of zeros, and no more digits
than the limit. -/
def integer? (digits : Text) : Option Literal :=
  if digits.all (· == '0') then some (.int 0)
  else if digits.head? == some '0' || maxDigits < digits.length then none
  else some (.int (Number.digitsValue digits))

/-- A decimal numeral. -/
def decimal? (text : Text) : Option (Literal × Nat) := do
  let (whole, wholeLength, behind) ← if text.head? == some '.' then some ([], 0, text)
    else digitRun? Char.isDigit text
  let (fraction, fractionLength, behind) ← fraction? behind
  let (exponent, exponentLength, behind) ← exponent? behind
  let length := wholeLength + fractionLength + exponentLength
  let value := Number.ofParts whole (fraction.getD []) (exponent.getD 0)
  match behind with
  | c :: rest =>
    if c = 'j' ∨ c = 'J' then
      if mayEndBefore rest then some (.imaginary value, length + 1) else none
    else if !mayEndBefore behind then none
    else if fraction.isSome || exponent.isSome then some (.float value, length)
    else (integer? whole).map fun number => (number, length)
  | [] =>
    if fraction.isSome || exponent.isSome then some (.float value, length)
    else (integer? whole).map fun number => (number, length)

/-- The numeral at the head of a text that begins with a digit, or with a point and a digit: its
value and its number of characters. -/
def read? (text : Text) : Option (Literal × Nat) :=
  match text with
  | '0' :: mark :: rest =>
    match baseOf? mark with
    | some base => inBase? base rest
    | none => decimal? text
  | _ => decimal? text

end Formulary.Numeral
