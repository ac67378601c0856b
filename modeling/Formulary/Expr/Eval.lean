/-
Formulary.Expr.Eval — the value of an expression, and of formula text.

Evaluation goes through the tree from left to right and stops at the first node that it does not
accept. A construct outside the calculator is refused before its parts are looked at; a call checks
its target, then the form of its arguments, then the arguments, then applies the function; an
operator evaluates its operands first. The only limit that depends on values is the one on
exponents.
-/
import Formulary.Expr.Error
import Formulary.Expr.Grammar
import Formulary.Text.Blank

namespace Formulary

/-- The limits of an evaluation: on the length of the text and on finite exponents. What is said
about a text that is no expression, the complaint, is chosen here too; by default it is the same for
all texts. -/
structure Limits where
  maxLength : Int
  maxExponent : Int
  complaint : Text → Text := fun _ => "invalid syntax".toList

/-! ## Operators -/

/-- A sign applied to a number. -/
def UnaryOp.apply : UnaryOp → Float → Float
  | .plus, x => x
  | .minus, x => -x

/-- Whether a double is finite and larger in size than the limit. -/
def exceedsExponent (limit : Int) (exponent : Float) : Bool :=
  match Binary.ofFloat? exponent with
  | some b => b.compareMagnitude limit == .gt
  | none => false

/-- An operator applied to two numbers. Only a power can fail, by its exponent. -/
def BinaryOp.apply (maxExponent : Int) (op : BinaryOp) (a b : Float) : Except EvalError Float :=
  match op with
  | .add => pure (a + b)
  | .subtract => pure (a - b)
  | .multiply => pure (a * b)
  | .divide => pure (Number.divide a b)
  | .floorDivide => pure (Number.floorDivide a b)
  | .modulo => pure (Number.modulo a b)
  | .power =>
    if exceedsExponent maxExponent b then throw (.exponentTooLarge b maxExponent)
    else pure (Number.power a b)

/-! ## Trees -/

/-- The number that a literal stands for. -/
def Literal.number : Literal → Except EvalError Float
  | .int n =>
    match Number.ofInt? n with
    | some x => pure x
    | none => throw .literalTooLarge
  | .float x => pure x
  | other => throw (.unsupportedLiteral other)

/-- The function that the target of a call names. -/
def Expr.calledFunction : Expr → Except EvalError Function
  | .name id =>
    match Function.ofName? id with
    | some f => pure f
    | none => throw (.unknownFunction id)
  | other => throw (.unknownFunction other.label.toList)

namespace Expr

mutual

/-- The value of an expression. -/
def eval (maxExponent : Int) : Expr → Except EvalError Float
  | .literal value => value.number
  | .name id =>
    match constant? id with
    | some x => pure x
    | none => throw (.unknownName id)
  | .unary op operand => do
    let x ← eval maxExponent operand
    pure (op.apply x)
  | .binary op left right => do
    let a ← eval maxExponent left
    let b ← eval maxExponent right
    op.apply maxExponent a b
  | .call target args keywords => do
    let f ← target.calledFunction
    if !keywords.isEmpty || args.any isStarred then throw .notPositional
    else do
      let values ← evalAll maxExponent args
      match f.apply values with
      | .ok x => pure x
      | .error failure => throw (.function failure)
  | .foreign construct _ => throw (.unsupportedConstruct construct.label)

/-- The values of expressions, from left to right. -/
def evalAll (maxExponent : Int) : List Expr → Except EvalError (List Float)
  | [] => pure []
  | e :: rest => do
    let x ← eval maxExponent e
    let xs ← evalAll maxExponent rest
    pure (x :: xs)

end

end Expr

/-! ## Texts -/

/-- Why formula text was not evaluated: a failure with a report of its own, or a character that no
formula text can hold. -/
inductive Rejection
  | failed (error : EvalError)
  | nullCharacter

namespace Rejection

/-- The kind of the failure. -/
def name : Rejection → String
  | .failed error => error.name
  | .nullCharacter => "ValueError"

/-- The report of the failure. -/
def message : Rejection → Text
  | .failed error => error.message
  | .nullCharacter => "source code string cannot contain null bytes".toList

end Rejection

/-- The text that is read: without white space around it, and with each caret spelled as the
operator that it stands for. -/
def formulaSource (text : Text) : Text :=
  (Text.strip text).flatMap fun c => if c = '^' then ['*', '*'] else [c]

/-- The value of formula text. -/
def evaluate (limits : Limits) (text : Text) : Except Rejection Float :=
  if limits.maxLength < text.length then
    throw (.failed (.tooLong text.length limits.maxLength))
  else
    let source := formulaSource text
    if source.contains '\x00' then throw .nullCharacter
    else
      match Expr.ofText? source with
      | none => throw (.failed (.malformed (limits.complaint source) text))
      | some e =>
        match e.eval limits.maxExponent with
        | .ok x => pure x
        | .error error => throw (.failed error)

end Formulary
