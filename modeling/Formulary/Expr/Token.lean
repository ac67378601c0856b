/-
Formulary.Expr.Token — the tokens of formula text.

A token is a number, a name, a reserved word, a quotation or a symbol; line ends matter only outside
brackets, where they close the expression. Symbols that no expression uses are kept as one `stray`
token, which no grammar rule accepts.
-/
import Formulary.Expr.Literal

namespace Formulary

/-- The reserved words that expressions use, and one entry for all others. -/
inductive Keyword
  | trueValue
  | falseValue
  | noneValue
  | andWord
  | orWord
  | notWord
  | inWord
  | isWord
  | ifWord
  | elseWord
  | forWord
  | lambdaWord
  | awaitWord
  | asyncWord
  | yieldWord
  | fromWord
  | statementWord
deriving DecidableEq, Repr

namespace Keyword

/-- The words that only statements use. -/
def statementWords : List String :=
  ["as", "assert", "break", "class", "continue", "def", "del", "elif", "except", "finally",
    "global", "import", "nonlocal", "pass", "raise", "return", "try", "while", "with"]

/-- The reserved word with the given spelling. -/
def ofWord? (word : Text) : Option Keyword :=
  match String.ofList word with
  | "True" => some .trueValue
  | "False" => some .falseValue
  | "None" => some .noneValue
  | "and" => some .andWord
  | "or" => some .orWord
  | "not" => some .notWord
  | "in" => some .inWord
  | "is" => some .isWord
  | "if" => some .ifWord
  | "else" => some .elseWord
  | "for" => some .forWord
  | "lambda" => some .lambdaWord
  | "await" => some .awaitWord
  | "async" => some .asyncWord
  | "yield" => some .yieldWord
  | "from" => some .fromWord
  | other => if statementWords.contains other then some .statementWord else none

end Keyword

/-- The symbols of expressions. -/
inductive Symbol
  | plus
  | minus
  | star
  | doubleStar
  | slash
  | doubleSlash
  | percent
  | at
  | shiftLeft
  | shiftRight
  | ampersand
  | bar
  | tilde
  | less
  | greater
  | lessEqual
  | greaterEqual
  | equal
  | notEqual
  | openParen
  | closeParen
  | openBracket
  | closeBracket
  | openBrace
  | closeBrace
  | comma
  | colon
  | dot
  | ellipsis
  | assign
  | walrus
  | stray
deriving DecidableEq, Repr

namespace Symbol

/-- The symbol at the head of a text and the number of its characters: the longest one that fits. -/
def read? : Text → Option (Symbol × Nat)
  | '*' :: '*' :: '=' :: _ => some (.stray, 3)
  | '/' :: '/' :: '=' :: _ => some (.stray, 3)
  | '<' :: '<' :: '=' :: _ => some (.stray, 3)
  | '>' :: '>' :: '=' :: _ => some (.stray, 3)
  | '.' :: '.' :: '.' :: _ => some (.ellipsis, 3)
  | '*' :: '*' :: _ => some (.doubleStar, 2)
  | '/' :: '/' :: _ => some (.doubleSlash, 2)
  | '<' :: '<' :: _ => some (.shiftLeft, 2)
  | '>' :: '>' :: _ => some (.shiftRight, 2)
  | '<' :: '=' :: _ => some (.lessEqual, 2)
  | '>' :: '=' :: _ => some (.greaterEqual, 2)
  | '=' :: '=' :: _ => some (.equal, 2)
  | '!' :: '=' :: _ => some (.notEqual, 2)
  | ':' :: '=' :: _ => some (.walrus, 2)
  | '<' :: '>' :: _ => some (.stray, 2)
  | '-' :: '>' :: _ => some (.stray, 2)
  | '+' :: '=' :: _ => some (.stray, 2)
  | '-' :: '=' :: _ => some (.stray, 2)
  | '*' :: '=' :: _ => some (.stray, 2)
  | '/' :: '=' :: _ => some (.stray, 2)
  | '%' :: '=' :: _ => some (.stray, 2)
  | '@' :: '=' :: _ => some (.stray, 2)
  | '&' :: '=' :: _ => some (.stray, 2)
  | '|' :: '=' :: _ => some (.stray, 2)
  | '+' :: _ => some (.plus, 1)
  | '-' :: _ => some (.minus, 1)
  | '*' :: _ => some (.star, 1)
  | '/' :: _ => some (.slash, 1)
  | '%' :: _ => some (.percent, 1)
  | '@' :: _ => some (.at, 1)
  | '&' :: _ => some (.ampersand, 1)
  | '|' :: _ => some (.bar, 1)
  | '~' :: _ => some (.tilde, 1)
  | '<' :: _ => some (.less, 1)
  | '>' :: _ => some (.greater, 1)
  | '(' :: _ => some (.openParen, 1)
  | ')' :: _ => some (.closeParen, 1)
  | '[' :: _ => some (.openBracket, 1)
  | ']' :: _ => some (.closeBracket, 1)
  | '\x7b' :: _ => some (.openBrace, 1)
  | '\x7d' :: _ => some (.closeBrace, 1)
  | ',' :: _ => some (.comma, 1)
  | ':' :: _ => some (.colon, 1)
  | '.' :: _ => some (.dot, 1)
  | '=' :: _ => some (.assign, 1)
  | ';' :: _ => some (.stray, 1)
  | _ => none

/-- The symbol that closes a bracket. -/
def closing? : Symbol → Option Symbol
  | .openParen => some .closeParen
  | .openBracket => some .closeBracket
  | .openBrace => some .closeBrace
  | _ => none

/-- Whether the symbol closes a bracket. -/
def isClosing : Symbol → Bool
  | .closeParen => true
  | .closeBracket => true
  | .closeBrace => true
  | _ => false

end Symbol

/-- A quotation: a text or byte string with its escapes resolved, or a formatted text, of which only
the expressions inside matter. -/
inductive Quotation
  | text (codes : List Nat)
  | bytes (codes : List Nat)
  | formatted (fields : List Text)

/-- A token. -/
inductive Token
  | number (value : Literal)
  | name (id : Text)
  | keyword (word : Keyword)
  | quotation (value : Quotation)
  | symbol (value : Symbol)
  | lineEnd

end Formulary
