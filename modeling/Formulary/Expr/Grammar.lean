/-
Formulary.Expr.Grammar — expressions from tokens.

Every rule of the grammar is a plain function from the tokens to an expression and the tokens behind
it. A rule never calls itself: where the grammar recurs (inside brackets, behind a sign, on the
right of a power) the rule asks a `Recursion`, which is given to it, and `parse` ties the knot by
as many rounds as the text has characters, each recursion having consumed at least one. Loops
along one level (operators of equal strength, elements between commas) count the tokens instead.

The strength of operators, from weak to strong: conditional, `or`, `and`, `not`, comparison, bit
operators and shifts, `+ -`, `* / // % @`, signs, power. Power binds its right operand like a sign
and its left operand tighter than one, so `-2 ^ 2` is negative and `2 ^ -1` needs no parentheses.
-/
import Formulary.Expr.Basic
import Formulary.Expr.Scan

namespace Formulary.Grammar

/-! ## Rules and loops -/

/-- What a rule reads: something, and the tokens behind it. -/
abbrev Reading (α : Type) := List Token → Option (α × List Token)

/-- A rule reads an expression. -/
abbrev Rule := Reading Expr

/-- The places at which the grammar recurs. -/
inductive Goal
  | expression
  | disjunction
  | inversion
  | bitwiseOr
  | factor
  | primary

/-- The rules for the places at which the grammar recurs. -/
abbrev Recursion := Goal → Rule

/-- Step over one symbol. -/
def expect (mark : Symbol) : List Token → Option (List Token)
  | .symbol found :: ts => if found = mark then some ts else none
  | _ => none

/-- Step over one reserved word. -/
def expectWord (word : Keyword) : List Token → Option (List Token)
  | .keyword found :: ts => if found = word then some ts else none
  | _ => none

/-- Whether the tokens begin with the symbol. -/
def startsWith (mark : Symbol) (ts : List Token) : Bool :=
  (expect mark ts).isSome

/-- Go on with a chain of operators of one strength, associating to the left. The count bounds the
number of operators. -/
def chainFrom (operator? : Token → Option (Expr → Expr → Expr)) (operand : Rule) :
    Nat → Expr → Rule
  | count + 1, left, t :: ts =>
    match operator? t with
    | some combine => do
      let (right, ts) ← operand ts
      chainFrom operator? operand count (combine left right) ts
    | none => some (left, t :: ts)
  | _, left, ts => some (left, ts)

/-- Operands joined by operators of one strength, associating to the left. -/
def chain (operator? : Token → Option (Expr → Expr → Expr)) (operand : Rule) : Rule := fun ts => do
  let (first, ts) ← operand ts
  chainFrom operator? operand ts.length first ts

/-- Items between commas, and whether there was a comma at all. A comma before something at which
the items `stop` is a trailing one. The count bounds the number of items. -/
def items {α : Type} (item : Reading α) (stop : List Token → Bool) :
    Nat → Reading (List α × Bool)
  | 0, _ => none
  | count + 1, ts => do
    let (first, ts) ← item ts
    match ts with
    | .symbol .comma :: ts =>
      if stop ts then some (([first], true), ts)
      else
        let ((others, _), ts) ← items item stop count ts
        some ((first :: others, true), ts)
    | ts => some (([first], false), ts)

/-- Items between commas up to a closing symbol, which is stepped over. -/
def itemsUntil {α : Type} (item : Reading α) (closing : Symbol) : Reading (List α × Bool) :=
  fun ts => do
    let (found, ts) ← items item (startsWith closing) ts.length ts
    let ts ← expect closing ts
    some (found, ts)

/-! ## Operators -/

/-- The operator of the multiplicative strength that a token stands for. -/
def productOperator? : Token → Option (Expr → Expr → Expr)
  | .symbol .star => some (.binary .multiply)
  | .symbol .slash => some (.binary .divide)
  | .symbol .doubleSlash => some (.binary .floorDivide)
  | .symbol .percent => some (.binary .modulo)
  | .symbol .at => some fun a b => .foreign .otherBinary [a, b]
  | _ => none

/-- The operator of the additive strength that a token stands for. -/
def sumOperator? : Token → Option (Expr → Expr → Expr)
  | .symbol .plus => some (.binary .add)
  | .symbol .minus => some (.binary .subtract)
  | _ => none

/-- The shift that a token stands for. -/
def shiftOperator? : Token → Option (Expr → Expr → Expr)
  | .symbol .shiftLeft => some fun a b => .foreign .otherBinary [a, b]
  | .symbol .shiftRight => some fun a b => .foreign .otherBinary [a, b]
  | _ => none

/-- The bit conjunction, if the token stands for it. -/
def bitwiseAndOperator? : Token → Option (Expr → Expr → Expr)
  | .symbol .ampersand => some fun a b => .foreign .otherBinary [a, b]
  | _ => none

/-- The bit disjunction, if the token stands for it. -/
def bitwiseOrOperator? : Token → Option (Expr → Expr → Expr)
  | .symbol .bar => some fun a b => .foreign .otherBinary [a, b]
  | _ => none

/-- Step over a comparison operator. -/
def comparisonOperator? : List Token → Option (List Token)
  | .symbol .less :: ts => some ts
  | .symbol .greater :: ts => some ts
  | .symbol .lessEqual :: ts => some ts
  | .symbol .greaterEqual :: ts => some ts
  | .symbol .equal :: ts => some ts
  | .symbol .notEqual :: ts => some ts
  | .keyword .inWord :: ts => some ts
  | .keyword .notWord :: .keyword .inWord :: ts => some ts
  | .keyword .isWord :: .keyword .notWord :: ts => some ts
  | .keyword .isWord :: ts => some ts
  | _ => none

/-! ## Names with a meaning of their own in lists -/

/-- An expression that may be bound to a name on the way. -/
def named (recur : Recursion) : Rule
  | .name id :: .symbol .walrus :: ts => do
    let (value, ts) ← recur .expression ts
    some (.foreign .assignment [.name id, value], ts)
  | ts => recur .expression ts

/-- Whether the tokens begin with a binding. -/
def startsBinding : List Token → Bool
  | .name _ :: .symbol .walrus :: _ => true
  | _ => false

/-- An element of a display: one expression, perhaps bound to a name, or a spread one. -/
def element (recur : Recursion) : Rule
  | .symbol .star :: ts => do
    let (e, ts) ← recur .bitwiseOr ts
    some (.foreign .starred [e], ts)
  | ts => named recur ts

/-! ## Comprehension clauses -/

/-- Step over the words that begin a comprehension clause. -/
def clauseStart? : List Token → Option (List Token)
  | .keyword .forWord :: ts => some ts
  | .keyword .asyncWord :: .keyword .forWord :: ts => some ts
  | _ => none

/-- A target that a comprehension clause binds. -/
def target (recur : Recursion) : Rule
  | .symbol .star :: ts => do
    let (e, ts) ← recur .primary ts
    if e.isTarget then some (.foreign .starred [e], ts) else none
  | ts => do
    let (e, ts) ← recur .primary ts
    if e.isTarget then some (e, ts) else none

/-- The conditions of a clause. The count bounds their number. -/
def conditions (recur : Recursion) : Nat → Reading (List Expr)
  | count + 1, .keyword .ifWord :: ts => do
    let (first, ts) ← recur .disjunction ts
    let (others, ts) ← conditions recur count ts
    some (first :: others, ts)
  | _, ts => some ([], ts)

/-- One clause, behind the words that begin it: its targets, source and conditions. -/
def clause (recur : Recursion) : Reading (List Expr) := fun ts => do
  let ((targets, _), ts) ←
    items (target recur) (fun ts => (expectWord .inWord ts).isSome) ts.length ts
  let ts ← expectWord .inWord ts
  let (source, ts) ← recur .disjunction ts
  let (tests, ts) ← conditions recur ts.length ts
  some (targets ++ source :: tests, ts)

/-- Further clauses as long as there are any. The count bounds their number. -/
def moreClauses (recur : Recursion) : Nat → Reading (List Expr)
  | 0, ts => some ([], ts)
  | count + 1, ts =>
    match clauseStart? ts with
    | some ts => do
      let (first, ts) ← clause recur ts
      let (others, ts) ← moreClauses recur count ts
      some (first ++ others, ts)
    | none => some ([], ts)

/-- A comprehension over `parts`, if the tokens begin with a clause: its clauses and the closing
symbol. `none` in the result means that there is no clause here. -/
def comprehension (recur : Recursion) (construct : Construct) (parts : List Expr)
    (closing : Symbol) : Reading (Option Expr) := fun ts =>
  match clauseStart? ts with
  | none => some (none, ts)
  | some behind => do
    let (first, behind) ← clause recur behind
    let (others, behind) ← moreClauses recur behind.length behind
    let behind ← expect closing behind
    some (some (.foreign construct (parts ++ first ++ others)), behind)

/-! ## Displays and groups -/

/-- What stands between parentheses, behind the opening one. -/
def group (recur : Recursion) : Rule
  | .symbol .closeParen :: ts => some (.foreign .tuple [], ts)
  | .keyword .yieldWord :: .keyword .fromWord :: ts => do
    let (e, ts) ← recur .expression ts
    let ts ← expect .closeParen ts
    some (.foreign .yieldFrom [e], ts)
  | .keyword .yieldWord :: .symbol .closeParen :: ts => some (.foreign .yield [], ts)
  | .keyword .yieldWord :: ts => do
    let item : Rule
      | .symbol .star :: ts => do
        let (e, ts) ← recur .bitwiseOr ts
        some (.foreign .starred [e], ts)
      | ts => recur .expression ts
    let ((parts, several), ts) ← itemsUntil item .closeParen ts
    some (.foreign .yield (if several then [.foreign .tuple parts] else parts), ts)
  | ts => do
    let (first, ts) ← element recur ts
    match ts with
    | .symbol .comma :: .symbol .closeParen :: ts => some (.foreign .tuple [first], ts)
    | .symbol .comma :: ts => do
      let ((others, _), ts) ← itemsUntil (element recur) .closeParen ts
      some (.foreign .tuple (first :: others), ts)
    | ts =>
      if first.isStarred then none
      else do
        let (found, ts) ← comprehension recur .generator [first] .closeParen ts
        match found with
        | some e => some (e, ts)
        | none => (expect .closeParen ts).map fun ts => (first, ts)

/-- What stands between brackets, behind the opening one. -/
def listDisplay (recur : Recursion) : Rule
  | .symbol .closeBracket :: ts => some (.foreign .list [], ts)
  | ts => do
    let (first, ts) ← element recur ts
    match ts with
    | .symbol .comma :: .symbol .closeBracket :: ts => some (.foreign .list [first], ts)
    | .symbol .comma :: ts => do
      let ((others, _), ts) ← itemsUntil (element recur) .closeBracket ts
      some (.foreign .list (first :: others), ts)
    | .symbol .closeBracket :: ts => some (.foreign .list [first], ts)
    | ts =>
      if first.isStarred then none
      else do
        let (found, ts) ← comprehension recur .listComprehension [first] .closeBracket ts
        found.map fun e => (e, ts)

/-- An entry of a dictionary: a spread one, or a key and a value. -/
def entry (recur : Recursion) : Reading (List Expr)
  | .symbol .doubleStar :: ts => do
    let (e, ts) ← recur .bitwiseOr ts
    some ([e], ts)
  | ts => do
    let (key, ts) ← recur .expression ts
    let ts ← expect .colon ts
    let (value, ts) ← recur .expression ts
    some ([key, value], ts)

/-- The entries of a dictionary behind a first one. -/
def moreEntries (recur : Recursion) (first : List Expr) : Rule
  | .symbol .closeBrace :: ts => some (.foreign .dictionary first, ts)
  | .symbol .comma :: .symbol .closeBrace :: ts => some (.foreign .dictionary first, ts)
  | .symbol .comma :: ts => do
    let ((others, _), ts) ← itemsUntil (entry recur) .closeBrace ts
    some (.foreign .dictionary (first ++ others.flatten), ts)
  | _ => none

/-- What stands between braces, behind the opening one: a dictionary or a set. -/
def braceDisplay (recur : Recursion) : Rule
  | .symbol .closeBrace :: ts => some (.foreign .dictionary [], ts)
  | .symbol .doubleStar :: ts => do
    let (first, ts) ← entry recur (.symbol .doubleStar :: ts)
    moreEntries recur first ts
  | start => do
    let (first, ts) ← element recur start
    match ts with
    | .symbol .colon :: ts =>
      if first.isStarred || startsBinding start then none
      else do
        let (value, ts) ← recur .expression ts
        let (found, ts) ← comprehension recur .dictionaryComprehension [first, value] .closeBrace ts
        match found with
        | some e => some (e, ts)
        | none => moreEntries recur [first, value] ts
    | .symbol .comma :: .symbol .closeBrace :: ts => some (.foreign .set [first], ts)
    | .symbol .comma :: ts => do
      let ((others, _), ts) ← itemsUntil (element recur) .closeBrace ts
      some (.foreign .set (first :: others), ts)
    | .symbol .closeBrace :: ts => some (.foreign .set [first], ts)
    | ts =>
      if first.isStarred then none
      else do
        let (found, ts) ← comprehension recur .setComprehension [first] .closeBrace ts
        found.map fun e => (e, ts)

/-! ## Quotations -/

/-- The quotations at the head of the tokens, which count as one. -/
def quotations : List Token → List Quotation × List Token
  | .quotation q :: ts =>
    let (more, behind) := quotations ts
    (q :: more, behind)
  | ts => ([], ts)

/-- Whether the text, an embedded expression between parentheses, is an expression. -/
def isEmbedded (recur : Recursion) (field : Text) : Bool :=
  match Token.ofText? field with
  | some ts =>
    match recur .primary ts with
    | some (_, []) => true
    | _ => false
  | none => false

/-- The codes of adjacent texts, if all of them are plain texts. -/
def joinTexts? : List Quotation → Option (List Nat)
  | [] => some []
  | .text codes :: rest => (joinTexts? rest).map (codes ++ ·)
  | _ => none

/-- The codes of adjacent byte strings, if all of them are byte strings. -/
def joinBytes? : List Quotation → Option (List Nat)
  | [] => some []
  | .bytes codes :: rest => (joinBytes? rest).map (codes ++ ·)
  | _ => none

/-- Whether a quotation can be part of a formatted text. -/
def fitsFormatted (recur : Recursion) : Quotation → Bool
  | .text _ => true
  | .bytes _ => false
  | .formatted fields => fields.all (isEmbedded recur)

/-- Adjacent quotations as one expression. Texts and byte strings do not mix; one formatted part
makes the whole a formatted text. -/
def quotation (recur : Recursion) : Rule := fun ts =>
  let (found, ts) := quotations ts
  match joinTexts? found, joinBytes? found with
  | some codes, _ => some (.literal (.text codes), ts)
  | none, some codes => some (.literal (.bytes codes), ts)
  | none, none =>
    if found.all (fitsFormatted recur) then some (.foreign .formattedText [], ts) else none

/-! ## Atoms, calls and subscripts -/

/-- The smallest expressions. -/
def atom (recur : Recursion) : Rule
  | .number value :: ts => some (.literal value, ts)
  | .name id :: ts => some (.name id, ts)
  | .keyword .trueValue :: ts => some (.literal (.truth true), ts)
  | .keyword .falseValue :: ts => some (.literal (.truth false), ts)
  | .keyword .noneValue :: ts => some (.literal .nothing, ts)
  | .symbol .ellipsis :: ts => some (.literal .ellipsis, ts)
  | .symbol .openParen :: ts => group recur ts
  | .symbol .openBracket :: ts => listDisplay recur ts
  | .symbol .openBrace :: ts => braceDisplay recur ts
  | .quotation q :: ts => quotation recur (.quotation q :: ts)
  | _ => none

/-- How far the arguments of a call have come: keyword arguments end the plain positional ones, and
a keyword spread ends the positional spreads too. -/
inductive ArgumentPhase
  | first
  | positional
  | keyword
  | keywordSpread
deriving DecidableEq

/-- The arguments of a call. -/
structure Arguments where
  positional : List Expr
  keywords : List Expr

/-- The arguments of a call up to the closing parenthesis, which is stepped over. A generator may
stand alone without parentheses of its own. The count bounds the number of arguments. -/
def arguments (recur : Recursion) : Nat → ArgumentPhase → Reading Arguments
  | 0, _, _ => none
  | count + 1, phase, start =>
    let next (phase : ArgumentPhase) (ts : List Token) : Option (Arguments × List Token) :=
      match ts with
      | .symbol .closeParen :: ts => some (⟨[], []⟩, ts)
      | .symbol .comma :: ts => arguments recur count phase ts
      | _ => none
    match start with
    | .symbol .closeParen :: ts => some (⟨[], []⟩, ts)
    | .symbol .doubleStar :: ts => do
      let (e, ts) ← recur .expression ts
      let (rest, ts) ← next .keywordSpread ts
      some ({ rest with keywords := e :: rest.keywords }, ts)
    | .name _ :: .symbol .assign :: ts => do
      let (e, ts) ← recur .expression ts
      let (rest, ts) ← next (if phase = .keywordSpread then phase else .keyword) ts
      some ({ rest with keywords := e :: rest.keywords }, ts)
    | .symbol .star :: ts =>
      if phase = .keywordSpread then none
      else do
        let (e, ts) ← recur .expression ts
        let (rest, ts) ← next (if phase = .keyword then phase else .positional) ts
        some ({ rest with positional := .foreign .starred [e] :: rest.positional }, ts)
    | ts =>
      if phase = .keyword ∨ phase = .keywordSpread then none
      else do
        let (e, ts) ← named recur ts
        let (found, ts) ← if phase = .first then comprehension recur .generator [e] .closeParen ts
          else some (none, ts)
        match found with
        | some generator => some (⟨[generator], []⟩, ts)
        | none =>
          let (rest, ts) ← next .positional ts
          some ({ rest with positional := e :: rest.positional }, ts)

/-- An expression that may be left out before one of the symbols around a slice. -/
def optionalBound (recur : Recursion) : Reading (List Expr) := fun ts =>
  match ts with
  | .symbol .colon :: _ => some ([], ts)
  | .symbol .comma :: _ => some ([], ts)
  | .symbol .closeBracket :: _ => some ([], ts)
  | ts => (recur .expression ts).map fun (e, ts) => ([e], ts)

/-- The part of a slice behind its first colon. -/
def sliceTail (recur : Recursion) (lower : List Expr) : Rule := fun ts => do
  let (upper, ts) ← optionalBound recur ts
  match ts with
  | .symbol .colon :: ts => do
    let (step, ts) ← optionalBound recur ts
    some (.foreign .slice (lower ++ upper ++ step), ts)
  | ts => some (.foreign .slice (lower ++ upper), ts)

/-- One subscript: a slice, a spread expression, or an expression that may be bound to a name. -/
def subscript (recur : Recursion) : Rule
  | .symbol .colon :: ts => sliceTail recur [] ts
  | .symbol .star :: ts => do
    let (e, ts) ← recur .expression ts
    some (.foreign .starred [e], ts)
  | start => do
    let (e, ts) ← named recur start
    match ts with
    | .symbol .colon :: ts => if startsBinding start then none else sliceTail recur [e] ts
    | ts => some (e, ts)

/-- Attributes, calls and subscripts behind an expression. The count bounds their number. -/
def trailers (recur : Recursion) : Nat → Expr → Rule
  | count + 1, e, .symbol .dot :: .name _ :: ts =>
    trailers recur count (.foreign .member [e]) ts
  | count + 1, e, .symbol .openParen :: ts => do
    let (found, ts) ← arguments recur ts.length .first ts
    trailers recur count (.call e found.positional found.keywords) ts
  | count + 1, e, .symbol .openBracket :: ts => do
    let ((parts, several), ts) ← itemsUntil (subscript recur) .closeBracket ts
    let index := match parts, several with
      | [one], false => one
      | parts, _ => .foreign .tuple parts
    trailers recur count (.foreign .subscript [e, index]) ts
  | _, e, ts => some (e, ts)

/-- An atom with what follows it directly. -/
def primary (recur : Recursion) : Rule := fun ts => do
  let (e, ts) ← atom recur ts
  trailers recur ts.length e ts

/-! ## The levels of strength -/

/-- A primary expression that may be awaited. -/
def awaited (recur : Recursion) : Rule
  | .keyword .awaitWord :: ts => do
    let (e, ts) ← primary recur ts
    some (.foreign .await [e], ts)
  | ts => primary recur ts

/-- A power, whose right operand may carry a sign. -/
def power (recur : Recursion) : Rule := fun ts => do
  let (base, ts) ← awaited recur ts
  match ts with
  | .symbol .doubleStar :: ts => do
    let (exponent, ts) ← recur .factor ts
    some (.binary .power base exponent, ts)
  | ts => some (base, ts)

/-- A signed operand. -/
def factor (recur : Recursion) : Rule
  | .symbol .plus :: ts => do
    let (e, ts) ← recur .factor ts
    some (.unary .plus e, ts)
  | .symbol .minus :: ts => do
    let (e, ts) ← recur .factor ts
    some (.unary .minus e, ts)
  | .symbol .tilde :: ts => do
    let (e, ts) ← recur .factor ts
    some (.foreign .otherUnary [e], ts)
  | ts => power recur ts

/-- Products. -/
def product (recur : Recursion) : Rule :=
  chain productOperator? (factor recur)

/-- Sums. -/
def sum (recur : Recursion) : Rule :=
  chain sumOperator? (product recur)

/-- Bit operators, down to sums. -/
def bitwiseOr (recur : Recursion) : Rule :=
  chain bitwiseOrOperator? (chain bitwiseAndOperator? (chain shiftOperator? (sum recur)))

/-- The operands behind comparison operators. The count bounds their number. -/
def comparedWith (recur : Recursion) : Nat → Reading (List Expr)
  | 0, ts => some ([], ts)
  | count + 1, ts =>
    match comparisonOperator? ts with
    | some ts => do
      let (first, ts) ← bitwiseOr recur ts
      let (others, ts) ← comparedWith recur count ts
      some (first :: others, ts)
    | none => some ([], ts)

/-- A comparison, of any number of operands. -/
def comparison (recur : Recursion) : Rule := fun ts => do
  let (first, ts) ← bitwiseOr recur ts
  let (others, ts) ← comparedWith recur ts.length ts
  some (if others.isEmpty then first else .foreign .comparison (first :: others), ts)

/-- A negation. -/
def inversion (recur : Recursion) : Rule
  | .keyword .notWord :: ts => do
    let (e, ts) ← recur .inversion ts
    some (.foreign .otherUnary [e], ts)
  | ts => comparison recur ts

/-- Operands joined by one of the boolean words. -/
def booleanChain (word : Keyword) (operand : Rule) : Nat → Reading (List Expr)
  | 0, ts => some ([], ts)
  | count + 1, ts =>
    match expectWord word ts with
    | some ts => do
      let (first, ts) ← operand ts
      let (others, ts) ← booleanChain word operand count ts
      some (first :: others, ts)
    | none => some ([], ts)

/-- A boolean operation on one or more operands. -/
def boolean (word : Keyword) (operand : Rule) : Rule := fun ts => do
  let (first, ts) ← operand ts
  let (others, ts) ← booleanChain word operand ts.length ts
  some (if others.isEmpty then first else .foreign .boolean (first :: others), ts)

/-- Conjunctions and disjunctions. -/
def disjunction (recur : Recursion) : Rule :=
  boolean .orWord (boolean .andWord (inversion recur))

/-- How far the parameters of a function have come. Parameters with a default end those without;
a bare star must be followed by a parameter; keyword parameters come last. -/
inductive ParameterPhase
  | positional (some hasDefault slashed : Bool)
  | afterStar (needed : Bool)
  | done

/-- The parameters of a function without a name, up to the colon, which is stepped over; of them
only the defaults are kept. The count bounds their number. -/
def parameters (recur : Recursion) : Nat → ParameterPhase → Reading (List Expr)
  | 0, _, _ => none
  | count + 1, phase, start =>
    let next (phase : ParameterPhase) (ts : List Token) : Option (List Expr × List Token) :=
      match ts with
      | .symbol .comma :: ts => parameters recur count phase ts
      | .symbol .colon :: _ => parameters recur count phase ts
      | _ => none
    match phase, start with
    | .afterStar true, .symbol .colon :: _ => none
    | _, .symbol .colon :: ts => some ([], ts)
    | .positional _ _ slashed, .name _ :: .symbol .assign :: ts => do
      let (e, ts) ← recur .expression ts
      let (others, ts) ← next (.positional true true slashed) ts
      some (e :: others, ts)
    | .positional _ false slashed, .name _ :: ts => next (.positional true false slashed) ts
    | .positional true hasDefault false, .symbol .slash :: ts =>
      next (.positional true hasDefault true) ts
    | .positional .., .symbol .star :: .name _ :: ts => next (.afterStar false) ts
    | .positional .., .symbol .star :: .symbol .comma :: ts =>
      next (.afterStar true) (.symbol .comma :: ts)
    | .afterStar _, .name _ :: .symbol .assign :: ts => do
      let (e, ts) ← recur .expression ts
      let (others, ts) ← next (.afterStar false) ts
      some (e :: others, ts)
    | .afterStar _, .name _ :: ts => next (.afterStar false) ts
    | .positional .., .symbol .doubleStar :: .name _ :: ts => next .done ts
    | .afterStar false, .symbol .doubleStar :: .name _ :: ts => next .done ts
    | _, _ => none

/-- A full expression: a function without a name, or a disjunction that may be conditional. -/
def expression (recur : Recursion) : Rule
  | .keyword .lambdaWord :: ts => do
    let (defaults, ts) ← parameters recur (ts.length + 1) (.positional false false false) ts
    let (body, ts) ← recur .expression ts
    some (.foreign .lambda (defaults ++ [body]), ts)
  | ts => do
    let (body, ts) ← disjunction recur ts
    match ts with
    | .keyword .ifWord :: ts => do
      let (test, ts) ← disjunction recur ts
      let ts ← expectWord .elseWord ts
      let (other, ts) ← recur .expression ts
      some (.foreign .conditional [test, body, other], ts)
    | ts => some (body, ts)

/-! ## The whole grammar -/

/-- One round of the recursion. -/
def step (recur : Recursion) : Recursion
  | .expression => expression recur
  | .disjunction => disjunction recur
  | .inversion => inversion recur
  | .bitwiseOr => bitwiseOr recur
  | .factor => factor recur
  | .primary => primary recur

/-- The grammar with recursion down to the given depth. -/
def parse : Nat → Recursion
  | 0 => fun _ _ => none
  | depth + 1 => step (parse depth)

/-- Whether only line ends are left. -/
def isEnd (ts : List Token) : Bool :=
  ts.all fun
    | .lineEnd => true
    | _ => false

/-- The expression that the whole of the tokens stands for; several expressions between commas are
a tuple. -/
def ofTokens? (depth : Nat) (ts : List Token) : Option Expr := do
  let ((parts, several), rest) ← items (parse depth .expression) isEnd (ts.length + 1) ts
  if !isEnd rest then none
  else
    match parts, several with
    | [e], false => some e
    | parts, _ => some (.foreign .tuple parts)

end Formulary.Grammar

namespace Formulary

/-- The expression that a formula text stands for. -/
def Expr.ofText? (text : Text) : Option Expr :=
  (Token.ofText? text).bind (Grammar.ofTokens? (text.length + 1))

end Formulary
