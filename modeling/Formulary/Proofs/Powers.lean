/-
Formulary.Proofs.Powers — the two spellings of a power.

A power can be written with the operator and with a function. The operator follows the rules of the
calculator: the exponent is limited, every other power has a value, and where the reals have none it
is infinite or undefined. The function is the one of the mathematical library: its exponent is not
limited, and it refuses its arguments where the reals have no power or no double can hold it.

The two are compared argument by argument. `powRefusal?` says which arguments the function refuses,
and outside of these its value is the operator's, to the last bit. So the spellings have the same
outcome exactly where the exponent is within the limit and the function does not refuse.
-/
import Formulary.Expr.Eval
import Formulary.Proofs.Doubles
import Formulary.Proofs.Evaluating

namespace Formulary

/-! ## Powers by the operator -/

namespace Number

variable {x base exponent : Float}

theorem withSignOf_zero (h : (x == 0) = true) : withSignOf 0.0 x = x := by
  rcases eq_zero_or_of_beq h with rfl | rfl <;> rfl

theorem power_zero (h : (exponent == 0) = true) : power base exponent = 1.0 := by
  rw [power, if_pos h]

/-- Zero to a negative power is infinite, whatever the sign of the zero is. -/
theorem power_of_zero_negative (hbase : (base == 0) = true) (h : exponent < 0) :
    power base exponent = infinity := by
  rw [power, ne_zero_of_lt_or_lt (.inl h), hbase, decide_eq_true h]
  rfl

/-- Zero to a positive power is zero, and keeps its sign under an odd exponent. -/
theorem power_of_zero_positive (hbase : (base == 0) = true) (h : 0 < exponent)
    (hfinite : exponent.isFinite = true) :
    power base exponent = if isOdd exponent then base else 0.0 := by
  obtain ⟨hnan, hinf⟩ := isFinite_iff.mp hfinite
  have hbaseNaN : base.isNaN = false := by
    rcases eq_zero_or_of_beq hbase with rfl | rfl <;> rfl
  have hbaseInf : base.isInf = false := by
    rcases eq_zero_or_of_beq hbase with rfl | rfl <;> rfl
  rw [power, ne_zero_of_lt_or_lt (.inr h), hbase, decide_eq_false (not_lt_zero_of_zero_lt h),
    hbaseNaN, hnan, hinf, hbaseInf, powerOfExtreme, hbaseInf, decide_eq_true h]
  cases isOdd exponent with
  | true => exact withSignOf_zero hbase
  | false => rfl

theorem power_of_finite (hbase : base.isFinite = true) (hexponent : exponent.isFinite = true)
    (hbaseZero : (base == 0) = false) (hexponentZero : (exponent == 0) = false) :
    power base exponent = powerOfFinite base exponent := by
  obtain ⟨hbaseNaN, hbaseInf⟩ := isFinite_iff.mp hbase
  obtain ⟨hnan, hinf⟩ := isFinite_iff.mp hexponent
  rw [power, hexponentZero, hbaseZero, hbaseNaN, hnan, hinf, hbaseInf]
  rfl

/-- A power of an infinite base is decided by the kind and the sign of the exponent alone. -/
theorem power_of_infinite (hbase : base.isInf = true) (hnan : exponent.isNaN = false) :
    power base exponent =
      if exponent == 0 then 1.0
      else if exponent.isInf then powerOfInfinite base exponent
      else powerOfExtreme base exponent := by
  rw [power, hnan]
  rcases eq_infinity_or_of_isInf hbase with rfl | rfl <;> rfl

end Number

/-! ## Powers by the function -/

namespace Function

open Number

variable {base exponent : Float}

/-- Why the function refuses finite arguments: zero has no negative power and a negative number no
fractional one, and a power that is infinite as a double is out of range. Other arguments are not
refused. -/
def powRefusal? (base exponent : Float) : Option Failure :=
  if base.isFinite && exponent.isFinite then
    if (base == 0 && exponent < 0) || (base < 0 && !isWhole exponent) then some .domain
    else if (power base exponent).isInf then some .range
    else none
  else none

/-- With an infinite base the function is the operator. -/
theorem extremePower_of_infinite (hbase : base.isInf = true) (hnan : exponent.isNaN = false) :
    extremePower base exponent = power base exponent := by
  have hbaseNaN : base.isNaN = false := by
    rcases eq_infinity_or_of_isInf hbase with rfl | rfl <;> rfl
  rw [extremePower, hbaseNaN, hnan, hbase, power_of_infinite hbase hnan]
  cases hexponent : exponent.isInf with
  | true =>
    rcases eq_infinity_or_of_isInf hexponent with rfl | rfl <;>
      rcases eq_infinity_or_of_isInf hbase with rfl | rfl <;> rfl
  | false =>
    rw [powerOfExtreme, hbase]
    by_cases hpositive : exponent > 0
    · rw [if_pos hpositive, decide_eq_true hpositive]
      rfl
    · rw [if_neg hpositive, decide_eq_false hpositive]
      rfl

/-- With a finite base and an infinite exponent the function is the operator. -/
theorem extremePower_of_infinite_exponent (hbase : base.isFinite = true)
    (hexponent : exponent.isInf = true) : extremePower base exponent = power base exponent := by
  obtain ⟨hbaseNaN, hbaseInf⟩ := isFinite_iff.mp hbase
  rw [extremePower, hbaseNaN, hbaseInf, power, hbaseNaN]
  rcases eq_infinity_or_of_isInf hexponent with rfl | rfl
  · cases base == 0 <;> rfl
  · cases hzero : base == 0 with
    | true => rcases eq_zero_or_of_beq hzero with rfl | rfl <;> rfl
    | false => rfl

/-- With an argument that is not finite the function is the operator. -/
theorem extremePower_eq (h : (base.isFinite && exponent.isFinite) = false) :
    extremePower base exponent = power base exponent := by
  cases hbaseNaN : base.isNaN with
  | true =>
    rw [eq_undefined_of_isNaN hbaseNaN, extremePower, power]
    cases exponent == 0 <;> rfl
  | false =>
    cases hnan : exponent.isNaN with
    | true =>
      rw [extremePower, hbaseNaN, hnan, power, hbaseNaN, hnan, eq_undefined_of_isNaN hnan]
      cases base == 0 <;> rfl
    | false =>
      cases hbase : base.isInf with
      | true => exact extremePower_of_infinite hbase hnan
      | false =>
        have hfinite : base.isFinite = true := isFinite_iff.mpr ⟨hbaseNaN, hbase⟩
        refine extremePower_of_infinite_exponent hfinite ?_
        rw [hfinite, Bool.true_and] at h
        by_contra hinf
        rw [isFinite_iff.mpr ⟨hnan, Bool.eq_false_iff.mpr hinf⟩] at h
        cases h

/-- With finite arguments the function is the operator, or it refuses. -/
theorem finitePower_eq (hbase : base.isFinite = true) (hexponent : exponent.isFinite = true) :
    finitePower base exponent =
      match powRefusal? base exponent with
      | some failure => .error failure
      | none => .ok (power base exponent) := by
  rw [powRefusal?, hbase, hexponent, Bool.and_true, if_pos rfl, finitePower]
  cases hexponentZero : exponent == 0 with
  | true =>
    have hnonneg : decide (exponent < 0) = false := by
      rcases eq_zero_or_of_beq hexponentZero with rfl | rfl <;> rfl
    have hwhole : isWhole exponent = true := by
      rcases eq_zero_or_of_beq hexponentZero with rfl | rfl <;> decide +kernel
    rw [hnonneg, hwhole, Bool.and_false, Bool.not_true, Bool.and_false, power_zero hexponentZero]
    rfl
  | false =>
    cases hbaseZero : base == 0 with
    | true =>
      have hnonneg : decide (base < 0) = false := by
        rcases eq_zero_or_of_beq hbaseZero with rfl | rfl <;> rfl
      rcases lt_zero_or_zero_lt (isFinite_iff.mp hexponent).1 hexponentZero with hlt | hlt
      · rw [decide_eq_true hlt, if_pos hlt]
        rfl
      · have hnot : ¬exponent < 0 := not_lt_zero_of_zero_lt hlt
        have hrange : (if isOdd exponent then base else 0.0).isInf = false := by
          cases isOdd exponent with
          | true => rcases eq_zero_or_of_beq hbaseZero with rfl | rfl <;> rfl
          | false => exact (by decide +kernel : (0.0 : Float).isInf = false)
        rw [if_neg hnot, decide_eq_false hnot, hnonneg,
          power_of_zero_positive hbaseZero hlt hexponent, hrange]
        rfl
    | false =>
      rw [power_of_finite hbase hexponent hbaseZero hexponentZero]
      cases decide (base < 0) && !isWhole exponent with
      | true => rfl
      | false =>
        change (if (powerOfFinite base exponent).isInf then _ else _) = _
        cases (powerOfFinite base exponent).isInf <;> rfl

/-- The function has the operator's value wherever it does not refuse. -/
theorem realPower_eq (base exponent : Float) :
    realPower base exponent =
      match powRefusal? base exponent with
      | some failure => .error failure
      | none => .ok (power base exponent) := by
  rw [realPower]
  cases hfinite : base.isFinite && exponent.isFinite with
  | true =>
    obtain ⟨hbase, hexponent⟩ := (Bool.and_eq_true _ _).mp hfinite
    exact finitePower_eq hbase hexponent
  | false =>
    rw [if_neg Bool.false_ne_true, extremePower_eq hfinite, powRefusal?, hfinite]
    rfl

/-- No function fails the way a limit does. -/
theorem Failure.name_ne_limitExceeded (failure : Failure) : failure.name ≠ "LimitExceeded" := by
  cases failure <;> simp [name]

/-- Where the function refuses, the operator's value is infinite or undefined. -/
theorem power_of_refused {failure : Failure} (h : powRefusal? base exponent = some failure) :
    (power base exponent).isFinite = false := by
  rw [powRefusal?] at h
  split at h
  case isFalse => cases h
  case isTrue hfinite =>
    obtain ⟨hbase, hexponent⟩ := (Bool.and_eq_true _ _).mp hfinite
    split at h
    case isTrue hdomain =>
      simp only [Bool.or_eq_true, Bool.and_eq_true, decide_eq_true_eq] at hdomain
      rcases hdomain with ⟨hzero, hlt⟩ | ⟨hlt, hfraction⟩
      · rw [power_of_zero_negative hzero hlt]
        rfl
      · have hexponentZero : (exponent == 0) = false := by
          rw [Bool.eq_false_iff]
          intro hzero
          rcases eq_zero_or_of_beq hzero with rfl | rfl <;>
            exact absurd hfraction (by decide +kernel)
        rw [power_of_finite hbase hexponent (ne_zero_of_lt_or_lt (.inl hlt)) hexponentZero,
          powerOfFinite, if_pos hlt, if_neg (by simpa using hfraction)]
        cases powerOverflows base exponent <;> rfl
    case isFalse =>
      split at h
      case isFalse => cases h
      case isTrue hinf =>
        rw [Bool.eq_false_iff]
        intro hfinite
        rw [(isFinite_iff.mp hfinite).2] at hinf
        cases hinf

end Function

/-! ## The spellings compared -/

namespace Expr

open Formulary.Function Formulary.Number

variable {limit : Int} {base exponent : Expr}

/-- What an evaluation comes to for its reader: the value, or the name of the failure. -/
def outcome (result : Except EvalError Float) : Except String Float :=
  result.mapError EvalError.name

theorem eval_power (base exponent : Expr) :
    (binary .power base exponent).eval limit = (do
      let a ← base.eval limit
      let b ← exponent.eval limit
      if exceedsExponent limit b then throw (.exponentTooLarge b limit)
      else pure (power a b)) := by
  rw [eval]
  rfl

theorem eval_pow (hbase : base.isStarred = false) (hexponent : exponent.isStarred = false) :
    (call (name Function.pow.name.toList) [base, exponent] []).eval limit = (do
      let a ← base.eval limit
      let b ← exponent.eval limit
      match realPower a b with
      | .ok x => pure x
      | .error failure => throw (.function failure)) := by
  have hcalled : (name Function.pow.name.toList).calledFunction = .ok .pow := rfl
  rw [eval, hcalled]
  simp only [List.any, hbase, hexponent, evalAll]
  cases base.eval limit with
  | error => rfl
  | ok a => cases exponent.eval limit <;> rfl

/-- What the operator and the function make of two numbers comes to the same where neither refuses
them, and nowhere else: they never refuse by the same name. -/
theorem outcome_eq_iff (limit : Int) (a b : Float) :
    outcome (if exceedsExponent limit b then .error (.exponentTooLarge b limit)
        else .ok (power a b))
      = outcome (match powRefusal? a b with
        | some failure => .error (.function failure)
        | none => .ok (power a b)) ↔
      exceedsExponent limit b = false ∧ powRefusal? a b = none := by
  cases exceedsExponent limit b with
  | true =>
    refine ⟨fun hsame => ?_, fun hboth => absurd hboth.1.symm Bool.false_ne_true⟩
    cases hrefusal : powRefusal? a b with
    | none =>
      rw [hrefusal] at hsame
      cases hsame
    | some failure =>
      rw [hrefusal] at hsame
      exact absurd (Except.error.inj hsame).symm failure.name_ne_limitExceeded
  | false =>
    cases powRefusal? a b with
    | some failure => simp [outcome, Except.mapError]
    | none => simp

/-- **The two spellings of a power.** Failures of the arguments are those of both. With values for
the arguments, the operator refuses only exponents beyond the limit, the function refuses by
`powRefusal?`, and the two come to the same exactly where neither does. Where the function refuses,
the operator's power is infinite or undefined. -/
theorem eval_power_spellings (limit : Int) (hbase : base.isStarred = false)
    (hexponent : exponent.isStarred = false) :
    let byOperator := (binary .power base exponent).eval limit
    let byFunction := (call (name Function.pow.name.toList) [base, exponent] []).eval limit
    (∀ error, base.eval limit = .error error →
      byOperator = .error error ∧ byFunction = .error error) ∧
    (∀ a error, base.eval limit = .ok a → exponent.eval limit = .error error →
      byOperator = .error error ∧ byFunction = .error error) ∧
    (∀ a b, base.eval limit = .ok a → exponent.eval limit = .ok b →
      (byOperator = if exceedsExponent limit b then .error (.exponentTooLarge b limit)
        else .ok (power a b)) ∧
      (byFunction = match powRefusal? a b with
        | some failure => .error (.function failure)
        | none => .ok (power a b)) ∧
      (outcome byOperator = outcome byFunction ↔
        exceedsExponent limit b = false ∧ powRefusal? a b = none) ∧
      ((powRefusal? a b).isSome → (power a b).isFinite = false)) := by
  intro byOperator byFunction
  have hoperator : byOperator = _ := eval_power base exponent
  have hfunction : byFunction = _ := eval_pow hbase hexponent
  refine ⟨fun error ha => ?_, fun a error ha hb => ?_, fun a b ha hb => ?_⟩
  · rw [hoperator, hfunction, ha]
    exact ⟨rfl, rfl⟩
  · rw [hoperator, hfunction, ha, hb]
    exact ⟨rfl, rfl⟩
  · have hoperator : byOperator = if exceedsExponent limit b
        then .error (.exponentTooLarge b limit) else .ok (power a b) := by
      rw [hoperator, ha, hb]
      rfl
    have hfunction : byFunction = match powRefusal? a b with
        | some failure => .error (.function failure)
        | none => .ok (power a b) := by
      rw [hfunction, ha, hb]
      simp only [bind, Except.bind, realPower_eq]
      cases powRefusal? a b <;> rfl
    refine ⟨hoperator, hfunction, ?_, fun hrefused => ?_⟩
    · rw [hoperator, hfunction]
      exact outcome_eq_iff limit a b
    · obtain ⟨failure, hrefusal⟩ := Option.isSome_iff_exists.mp hrefused
      exact power_of_refused hrefusal

/-- An odd power of a negative number is the same in both spellings. -/
theorem eval_power_spellings_cube :
    let base := unary .minus (literal (.float 1.0))
    let exponent := literal (.float 3.0)
    outcome ((binary .power base exponent).eval 1000)
      = outcome ((call (name Function.pow.name.toList) [base, exponent] []).eval 1000) := by
  intro base exponent
  have hvalues := (@eval_power_spellings base exponent 1000 rfl rfl).2.2 (-1.0) 3.0 rfl rfl
  exact hvalues.2.2.1.mpr
    ⟨by decide +kernel, Option.isNone_iff_eq_none.mp (by decide +kernel)⟩

/-- The function takes an exponent beyond the limit, and refuses where the operator's power is
infinite or undefined. -/
theorem evaluate_power_spellings_differ :
    let limits : Limits := { maxLength := 1000, maxExponent := 1000 }
    let outcome := fun text : String => (evaluate limits text.toList).mapError Rejection.name
    outcome "pow(1, 1001)" = .ok 1.0 ∧ outcome "(1) ^ (1001)" = .error "LimitExceeded" ∧
    outcome "pow(0, -1)" = .error "ValueError" ∧ outcome "(0) ^ (-1)" = .ok Number.infinity ∧
    outcome "pow(-8, 0.5)" = .error "ValueError" ∧
    outcome "(-8) ^ (0.5)" = .ok Number.undefined := by
  decide +kernel

end Expr

end Formulary
