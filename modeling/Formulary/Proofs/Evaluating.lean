/-
Formulary.Proofs.Evaluating — what the value of an expression says about its parts.

Evaluation is opened here once, one equation or inversion for each kind of node, so that a law about
values is an induction over the tree that never looks into `Expr.eval` itself.
-/
import Formulary.Expr.Eval

namespace Formulary.Expr

/-! ## Values of nodes -/

variable {limit : Int}

/-- A construct outside of the calculator has no value, whatever its parts are. -/
theorem eval_foreign (construct : Construct) (parts : List Expr) :
    (foreign construct parts).eval limit = .error (.unsupportedConstruct construct.label) := by
  rw [eval]
  rfl

/-- A literal with a value is a number. -/
theorem eval_literal_ok {value : Literal} {x : Float} (h : (literal value).eval limit = .ok x) :
    (∃ n, value = .int n) ∨ ∃ y, value = .float y := by
  rw [eval] at h
  cases value with
  | int n => exact .inl ⟨n, rfl⟩
  | float y => exact .inr ⟨y, rfl⟩
  | imaginary | truth | nothing | ellipsis | text | bytes => cases h

/-- A name with a value is a constant. -/
theorem eval_name_ok {id : Text} {x : Float} (h : (name id).eval limit = .ok x) :
    constant? id = some x := by
  rw [eval] at h
  split at h
  case h_1 y found =>
    rw [found]
    exact congrArg some (Except.ok.inj h)
  case h_2 => cases h

/-- A signed expression has a value as soon as its operand has one. -/
theorem eval_unary_ok {op : UnaryOp} {operand : Expr} {x : Float} :
    (unary op operand).eval limit = .ok x ↔ ∃ y, operand.eval limit = .ok y ∧ op.apply y = x := by
  rw [eval]
  cases operand.eval limit with
  | error error => simp [bind, Except.bind]
  | ok y => simp [bind, Except.bind, pure, Except.pure]

/-- An operation has a value when both operands have one and the operator accepts them. -/
theorem eval_binary_ok {op : BinaryOp} {left right : Expr} {x : Float} :
    (binary op left right).eval limit = .ok x ↔
      ∃ a b, left.eval limit = .ok a ∧ right.eval limit = .ok b ∧ op.apply limit a b = .ok x := by
  rw [eval]
  cases left.eval limit with
  | error error => simp [bind, Except.bind]
  | ok a =>
    cases right.eval limit with
    | error error => simp [bind, Except.bind]
    | ok b => simp [bind, Except.bind]

/-- Expressions that all have values have one each. -/
theorem evalAll_ok {es : List Expr} {xs : List Float} (h : evalAll limit es = .ok xs) :
    ∀ e ∈ es, ∃ x, e.eval limit = .ok x := by
  induction es generalizing xs with
  | nil => exact fun e he => absurd he List.not_mem_nil
  | cons first others ih =>
    rw [evalAll] at h
    cases hfirst : first.eval limit with
    | error error => rw [hfirst] at h; cases h
    | ok x =>
      cases hothers : evalAll limit others with
      | error error => rw [hfirst, hothers] at h; cases h
      | ok ys =>
        intro e he
        rcases List.mem_cons.mp he with rfl | he
        · exact ⟨x, hfirst⟩
        · exact ih hothers e he

/-- The target of a call names a function, or the call fails. -/
theorem calledFunction_ok {target : Expr} {f : Function} (h : target.calledFunction = .ok f) :
    ∃ id, target = .name id ∧ Function.ofName? id = some f := by
  cases target with
  | name id =>
    rw [calledFunction] at h
    split at h
    case h_1 g found => exact ⟨id, rfl, found.trans (congrArg some (Except.ok.inj h))⟩
    case h_2 => cases h
  | literal | unary | binary | call | foreign => cases h

/-- A call with a value names a function, gives it nothing but plain positional arguments, and all
of these have values. -/
theorem eval_call_ok {target : Expr} {args keywords : List Expr} {x : Float}
    (h : (call target args keywords).eval limit = .ok x) :
    ∃ id f xs, target = .name id ∧ Function.ofName? id = some f ∧ keywords = [] ∧
      (∀ a ∈ args, a.isStarred = false) ∧ evalAll limit args = .ok xs ∧ f.apply xs = .ok x := by
  rw [eval] at h
  cases htarget : target.calledFunction with
  | error error => rw [htarget] at h; cases h
  | ok f =>
    obtain ⟨id, hid, found⟩ := calledFunction_ok htarget
    rw [htarget] at h
    simp only [bind, Except.bind] at h
    split at h
    case isTrue => cases h
    case isFalse hform =>
      simp only [Bool.or_eq_true, Bool.not_eq_eq_eq_not, Bool.not_true, List.isEmpty_eq_false_iff,
        List.any_eq_true, not_or, ne_eq, Classical.not_not, not_exists, not_and,
        Bool.not_eq_true] at hform
      cases hargs : evalAll limit args with
      | error error => rw [hargs] at h; cases h
      | ok xs =>
        rw [hargs] at h
        simp only at h
        split at h
        case h_1 y applied =>
          refine ⟨id, f, xs, hid, found, hform.1, hform.2, rfl, ?_⟩
          exact applied.trans (congrArg Except.ok (Except.ok.inj h))
        case h_2 => cases h

end Formulary.Expr
