/-
Formulary.Proofs.Escaping — what can escape from the evaluator.

The calculator reports failures as data. The primitives underneath raise exceptions: a quotient by
zero, a number that no double holds, a look-up without an entry, a function outside of its domain.
Between the two stand guards, which keep such arguments away from a primitive, and handlers, which
turn some kinds of exceptions into reports and let all others through.

Here the evaluation is spelled out with primitives that raise (`Expr.walk`) and with the handlers
around it (`evaluateOrRaise`). Every exception that a tree can raise, at any depth, is one for which
the handler stands ready, and its report is the one that the calculator gives. What escapes is the
exception that reading a text with a null character raises, since no handler is around for it.
-/
import Formulary.Evaluation
import Formulary.Proofs.Powers
import Formulary.Proofs.Settling

namespace Formulary

/-! ## Exceptions -/

/-- The kinds of exceptions that primitives raise. -/
inductive ExceptionKind
  | zeroDivision
  | overflow
  | value
  | type
  | key
  | attribute
  | syntactic
deriving DecidableEq

namespace ExceptionKind

/-- The name of a kind. -/
def name : ExceptionKind → String
  | .zeroDivision => "ZeroDivisionError"
  | .overflow => "OverflowError"
  | .value => "ValueError"
  | .type => "TypeError"
  | .key => "KeyError"
  | .attribute => "AttributeError"
  | .syntactic => "SyntaxError"

/-- Whether the handler around the evaluation of a tree takes exceptions of the kind: arithmetical
ones, and those about values and types. -/
def isHandled : ExceptionKind → Bool
  | .zeroDivision | .overflow | .value | .type => true
  | .key | .attribute | .syntactic => false

end ExceptionKind

/-- What is raised: a report of the evaluator, or an exception of a primitive. -/
inductive Raised
  | report (name : String) (message : Text)
  | plain (kind : ExceptionKind) (message : Text)

/-- The report of a failure. -/
def EvalError.report (error : EvalError) : Raised :=
  .report error.name error.message

/-- What is raised for the failure of a function. Only the check on decimal places reports by
itself; all other failures are exceptions of the function. -/
def Function.Failure.raised : Function.Failure → Raised
  | .places digits => EvalError.report (.function (.places digits))
  | .argumentCount f count => .plain .type (argumentCount f count).message
  | .notSeveral => .plain .type notSeveral.message
  | .domain => .plain .value domain.message
  | .range => .plain .overflow range.message
  | .zeroLogarithm => .plain .zeroDivision zeroLogarithm.message
  | .wholeOfInfinity => .plain .overflow wholeOfInfinity.message
  | .wholeOfUndefined => .plain .value wholeOfUndefined.message

/-- What is raised for the failure of a tree. -/
def EvalError.raised : EvalError → Raised
  | .literalTooLarge => .plain .overflow literalTooLarge.message
  | .function failure => failure.raised
  | error => error.report

/-! ## Primitives that raise -/

namespace Primitive

/-- An integer as a double. -/
def double (n : Nat) : Except Raised Float :=
  (Number.ofInt? n).elim (throw (.plain .overflow "int too large to convert to float".toList)) pure

/-- The entry of the table of constants for a name. -/
def constant (id : Text) : Except Raised Float :=
  match constant? id with
  | some x => pure x
  | none => throw (.plain .key (Text.quoted id))

/-- The entry of the table of functions for a name. -/
def function (id : Text) : Except Raised Function :=
  match Function.ofName? id with
  | some f => pure f
  | none => throw (.plain .key (Text.quoted id))

/-- The identifier of a node, which only names have. -/
def identifier : Expr → Except Raised Text
  | .name id => pure id
  | other => throw (.plain .attribute (s!"'{other.label}' object has no attribute 'id'").toList)

/-- A function of a divisor that must not be zero. -/
def dividing (f : Float → Float → Float) (a b : Float) : Except Raised Float :=
  if b == 0 then throw (.plain .zeroDivision "float division by zero".toList) else pure (f a b)

/-- A power: none of zero for a negative exponent, and none that is too large for a double. -/
def power (base exponent : Float) : Except Raised Float :=
  if base == 0 && exponent < 0 then
    throw (.plain .zeroDivision "0.0 cannot be raised to a negative power".toList)
  else if base.isFinite && exponent.isFinite && (Number.power base exponent).isInf then
    throw (.plain .overflow "(34, 'Numerical result out of range')".toList)
  else pure (Number.power base exponent)

/-- Read source text. Malformed text is complained of. -/
def parse (complaint : Text → Text) (source : Text) : Except Raised Expr :=
  if source.contains '\x00' then
    throw (.plain .value "source code string cannot contain null bytes".toList)
  else
    match Expr.ofText? source with
    | some e => pure e
    | none => throw (.plain .syntactic (complaint source))

end Primitive

/-! ## Guards -/

/-- An operator with its guards: divisors and the base of a negative power are compared with zero
first, the exponent is compared with the limit, and a power that overflows is taken for what the
calculator says. -/
def BinaryOp.guarded (maxExponent : Int) (op : BinaryOp) (a b : Float) : Except Raised Float :=
  match op with
  | .add => pure (a + b)
  | .subtract => pure (a - b)
  | .multiply => pure (a * b)
  | .divide => if b == 0 then pure (Number.divide a b) else Primitive.dividing (· / ·) a b
  | .floorDivide =>
    if b == 0 then pure (Number.divide a b) else Primitive.dividing Number.floorQuotient a b
  | .modulo => if b == 0 then pure a else Primitive.dividing Number.floorRemainder a b
  | .power =>
    if exceedsExponent maxExponent b then throw (EvalError.exponentTooLarge b maxExponent).report
    else if a == 0 && b < 0 then pure Number.infinity
    else
      match Primitive.power a b with
      | .error (.plain .overflow _) => pure (Number.power a b)
      | outcome => outcome

namespace Expr

/-- Whether a node is a name. -/
def isName : Expr → Bool
  | .name _ => true
  | _ => false

/-- The function that the target of a call names, looked up once it is known to be there. -/
def callee (target : Expr) : Except Raised Function :=
  if !target.isName then throw (EvalError.unknownFunction target.label.toList).report
  else do
    let id ← Primitive.identifier target
    if (Function.ofName? id).isNone then throw (EvalError.unknownFunction id).report
    else Primitive.function id

mutual

/-- The value of an expression, with nothing caught. -/
def walk (maxExponent : Int) : Expr → Except Raised Float
  | .literal (.int n) => Primitive.double n
  | .literal (.float x) => pure x
  | .literal other => throw (EvalError.unsupportedLiteral other).report
  | .name id =>
    if (constant? id).isNone then throw (EvalError.unknownName id).report
    else Primitive.constant id
  | .unary op operand => do
    let x ← walk maxExponent operand
    pure (op.apply x)
  | .binary op left right => do
    let a ← walk maxExponent left
    let b ← walk maxExponent right
    op.guarded maxExponent a b
  | .call target args keywords => do
    let f ← target.callee
    if !keywords.isEmpty || args.any isStarred then throw EvalError.notPositional.report
    else do
      let values ← walkAll maxExponent args
      match f.apply values with
      | .ok x => pure x
      | .error failure => throw failure.raised
  | .foreign construct _ => throw (EvalError.unsupportedConstruct construct.label).report

/-- The values of expressions, from left to right, with nothing caught. -/
def walkAll (maxExponent : Int) : List Expr → Except Raised (List Float)
  | [] => pure []
  | e :: rest => do
    let x ← walk maxExponent e
    let xs ← walkAll maxExponent rest
    pure (x :: xs)

end

end Expr

/-! ## Handlers -/

/-- The handler around reading: malformed text is reported together with the text. -/
def Raised.whileReading (text : Text) : Raised → Raised
  | .plain .syntactic message =>
    .report "SyntaxError" (message ++ " in ".toList ++ Text.quoted text)
  | raised => raised

/-- The handler around the evaluation of a tree. -/
def Raised.whileEvaluating : Raised → Raised
  | .plain kind message => if kind.isHandled then .report kind.name message else .plain kind message
  | raised => raised

/-- The value of an expression that may be no text, as the caller sees it. -/
def evaluateOrRaise (limits : Limits) : Value → Except Raised Float
  | .text text =>
    if limits.maxLength < text.length then
      throw (EvalError.tooLong text.length limits.maxLength).report
    else do
      let e ← (Primitive.parse limits.complaint (formulaSource text)).mapError
        (Raised.whileReading text)
      (e.walk limits.maxExponent).mapError Raised.whileEvaluating
  | other => throw (EvalError.notText other.kind).report

/-- What the caller sees of a rejection. -/
def Rejection.raised : Rejection → Raised
  | .failed error => error.report
  | .nullCharacter => .plain .value nullCharacter.message

/-! ## Nothing else is raised -/

theorem Function.Failure.whileEvaluating_raised (failure : Function.Failure) :
    failure.raised.whileEvaluating = .report failure.name failure.message := by
  cases failure <;> rfl

/-- The handler makes a report of everything that a tree raises. -/
theorem EvalError.whileEvaluating_raised (error : EvalError) :
    error.raised.whileEvaluating = error.report := by
  cases error with
  | function failure => exact failure.whileEvaluating_raised
  | _ => rfl

/-- A divisor that has been compared with zero raises nothing. -/
theorem Primitive.guarded_dividing (f : Float → Float → Float) (a b x : Float) :
    (if b == 0 then pure x else dividing f a b) = pure (if b == 0 then x else f a b) := by
  rw [dividing]
  cases b == 0 <;> rfl

/-- With the guards, an operator raises nothing of its own. -/
theorem BinaryOp.guarded_eq (limit : Int) (op : BinaryOp) (a b : Float) :
    op.guarded limit a b = (op.apply limit a b).mapError EvalError.raised := by
  cases op with
  | add | subtract | multiply => rfl
  | divide =>
    rw [guarded, apply, Primitive.guarded_dividing, Number.divide]
    cases b == 0 <;> rfl
  | floorDivide =>
    rw [guarded, apply, Primitive.guarded_dividing]
    rfl
  | modulo =>
    rw [guarded, apply, Primitive.guarded_dividing]
    rfl
  | power =>
    rw [guarded, apply]
    cases exceedsExponent limit b with
    | true => rfl
    | false =>
      cases hzero : a == 0 && decide (b < 0) with
      | true =>
        obtain ⟨ha, hb⟩ := (Bool.and_eq_true _ _).mp hzero
        rw [Number.power_of_zero_negative ha (of_decide_eq_true hb)]
        rfl
      | false =>
        -- Either nothing is raised, or an overflow, which is caught here.
        rw [Primitive.power, hzero]
        cases a.isFinite && b.isFinite && (Number.power a b).isInf <;> rfl

/-- With the guards, looking up what a call names raises nothing of its own. -/
theorem Expr.callee_eq (target : Expr) :
    target.callee = target.calledFunction.mapError EvalError.raised := by
  cases target with
  | name id =>
    change (if (Function.ofName? id).isNone then _ else _) = _
    rw [calledFunction, Primitive.function]
    cases Function.ofName? id <;> rfl
  | literal | unary | binary | call | foreign => rfl

namespace Expr

mutual

/-- **The evaluation of a tree raises what the calculator reports**, and nothing else. -/
theorem walk_eq (limit : Int) :
    ∀ e : Expr, e.walk limit = (e.eval limit).mapError EvalError.raised
  | .literal (.int n) => by
    rw [walk, Primitive.double, Formula.eval_numeral]
    generalize Number.ofInt? n = converted
    cases converted <;> rfl
  | .literal (.float _) | .literal (.imaginary _) | .literal (.truth _) | .literal .nothing
  | .literal .ellipsis | .literal (.text _) | .literal (.bytes _) => by
    simp only [walk, eval]
    rfl
  | .name id => by
    rw [walk, eval, Primitive.constant]
    cases constant? id <;> rfl
  | .unary op operand => by
    rw [walk, eval, walk_eq limit operand]
    cases operand.eval limit <;> rfl
  | .binary op left right => by
    rw [walk, eval, walk_eq limit left, walk_eq limit right]
    cases left.eval limit with
    | error => rfl
    | ok a =>
      cases right.eval limit with
      | error => rfl
      | ok b => exact op.guarded_eq limit a b
  | .call target args keywords => by
    rw [walk, eval, callee_eq, walkAll_eq limit args]
    cases target.calledFunction with
    | error => rfl
    | ok f =>
      simp only [bind, Except.bind, Except.mapError]
      cases !keywords.isEmpty || args.any isStarred with
      | true => rfl
      | false =>
        cases evalAll limit args with
        | error => rfl
        | ok values =>
          simp only [Bool.false_eq_true, if_false]
          cases f.apply values <;> rfl
  | .foreign construct parts => by
    rw [walk, eval]
    rfl

theorem walkAll_eq (limit : Int) :
    ∀ es : List Expr, walkAll limit es = (evalAll limit es).mapError EvalError.raised
  | [] => by
    rw [walkAll, evalAll]
    rfl
  | e :: rest => by
    rw [walkAll, evalAll, walk_eq limit e, walkAll_eq limit rest]
    cases e.eval limit with
    | error => rfl
    | ok x => cases evalAll limit rest <;> rfl

end

end Expr

/-! ## Null characters -/

theorem Text.mem_dropWhile_iff {p : Char → Bool} {c : Char} (hc : p c = false) (text : Text) :
    c ∈ text.dropWhile p ↔ c ∈ text := by
  induction text with
  | nil => rfl
  | cons first rest ih =>
    rw [List.dropWhile_cons]
    split
    case isTrue hfirst =>
      have hne : c ≠ first := by
        rintro rfl
        rw [hc] at hfirst
        cases hfirst
      rw [ih, List.mem_cons, or_iff_right hne]
    case isFalse => rfl

theorem Text.mem_strip_iff {c : Char} (hc : isBlank c = false) (text : Text) :
    c ∈ strip text ↔ c ∈ text := by
  rw [strip, stripEnd, List.mem_reverse, mem_dropWhile_iff hc, List.mem_reverse,
    mem_dropWhile_iff hc]

/-- The text that is read has a null character where the formula has one. -/
theorem null_mem_formulaSource_iff (text : Text) :
    '\x00' ∈ formulaSource text ↔ '\x00' ∈ text := by
  rw [formulaSource, List.mem_flatMap, ← Text.mem_strip_iff (by decide) text]
  constructor
  · rintro ⟨c, hc, hmem⟩
    split at hmem
    case isTrue => exact absurd hmem (by decide)
    case isFalse =>
      rw [List.mem_singleton.mp hmem]
      exact hc
  · exact fun hmem => ⟨'\x00', hmem, by decide⟩

variable {limits : Limits} {text : Text}

theorem evaluate_of_null (hlength : text.length ≤ limits.maxLength) (hnull : '\x00' ∈ text) :
    evaluate limits text = .error .nullCharacter := by
  have hsource := List.contains_iff_mem.mpr ((null_mem_formulaSource_iff text).mpr hnull)
  rw [evaluate, if_neg (Int.not_lt.mpr hlength)]
  simp only [hsource, if_true]
  rfl

/-- A rejection for a null character is always due to one, and to a text that is not too long. -/
theorem null_mem_of_evaluate (h : evaluate limits text = .error .nullCharacter) :
    text.length ≤ limits.maxLength ∧ '\x00' ∈ text := by
  rw [evaluate] at h
  split at h
  case isTrue => cases h
  case isFalse hlength =>
    refine ⟨Int.not_lt.mp hlength, ?_⟩
    simp only at h
    split at h
    case isTrue hsource =>
      exact (null_mem_formulaSource_iff text).mp (List.contains_iff_mem.mp hsource)
    case isFalse =>
      split at h
      case h_1 => cases h
      case h_2 => split at h <;> cases h

/-- A value is rejected for a null character when it is a text with one that is not too long. -/
theorem evaluateAny_eq_nullCharacter_iff {v : Value} :
    evaluateAny limits v = .error .nullCharacter ↔
      ∃ text, v = .text text ∧ text.length ≤ limits.maxLength ∧ '\x00' ∈ text := by
  constructor
  · intro h
    cases v with
    | text text => exact ⟨text, rfl, null_mem_of_evaluate h⟩
    | null | bool | int | float | list | record => cases h
  · rintro ⟨text, rfl, hlength, hnull⟩
    exact evaluate_of_null hlength hnull

/-! ## What escapes -/

/-- Of all rejections only that for a null character is no report. -/
theorem raised_eq_plain_iff {outcome : Except Rejection Float} :
    (∃ message, outcome.mapError Rejection.raised = .error (.plain .value message)) ↔
      outcome = .error .nullCharacter := by
  cases outcome with
  | ok x => exact ⟨nofun, nofun⟩
  | error rejection =>
    cases rejection with
    | failed error => exact ⟨nofun, nofun⟩
    | nullCharacter => exact ⟨fun _ => rfl, fun _ => ⟨_, rfl⟩⟩

/-- With its handlers, the evaluation comes to what the calculator says. -/
theorem evaluateOrRaise_eq (limits : Limits) (v : Value) :
    evaluateOrRaise limits v = (evaluateAny limits v).mapError Rejection.raised := by
  cases v with
  | text text =>
    rw [evaluateOrRaise, evaluateAny, evaluate]
    split
    case isTrue => rfl
    case isFalse =>
      rw [Primitive.parse]
      simp only
      split
      case isTrue => rfl
      case isFalse =>
        cases Expr.ofText? (formulaSource text) with
        | none => rfl
        | some e =>
          change (e.walk limits.maxExponent).mapError Raised.whileEvaluating = _
          simp only [e.walk_eq]
          cases e.eval limits.maxExponent with
          | ok x => rfl
          | error error => exact congrArg Except.error error.whileEvaluating_raised
  | null | bool | int | float | list | record => rfl

/-- **Nothing escapes but a null character.** For every value and all limits, the evaluation gives a
number, or a report, or the exception about a value; and that exception exactly for a text that is
not too long and has a null character in it. -/
theorem evaluateOrRaise_escapes (limits : Limits) (v : Value) :
    evaluateOrRaise limits v = (evaluateAny limits v).mapError Rejection.raised ∧
    ((∃ x, evaluateOrRaise limits v = .ok x) ∨
      (∃ name message, evaluateOrRaise limits v = .error (.report name message)) ∨
      ∃ message, evaluateOrRaise limits v = .error (.plain .value message)) ∧
    ((∃ message, evaluateOrRaise limits v = .error (.plain .value message)) ↔
      ∃ text, v = .text text ∧ text.length ≤ limits.maxLength ∧ '\x00' ∈ text) := by
  refine ⟨evaluateOrRaise_eq limits v, ?_, ?_⟩
  · rw [evaluateOrRaise_eq]
    cases evaluateAny limits v with
    | ok x => exact .inl ⟨x, rfl⟩
    | error rejection =>
      cases rejection with
      | failed error => exact .inr (.inl ⟨error.name, error.message, rfl⟩)
      | nullCharacter => exact .inr (.inr ⟨_, rfl⟩)
  · rw [evaluateOrRaise_eq]
    exact raised_eq_plain_iff.trans evaluateAny_eq_nullCharacter_iff

end Formulary
