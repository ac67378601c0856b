/-
Formulary.Proofs.Overflow — where an evaluation fails because a number is too large.

A number that is too large for a double is infinite, and the evaluation goes on. Three places do not
keep to this rule: an integer that no double can hold, the exponential function and the power
function fail instead. The law says that there are no others. `Overflows` names the three, `Reaches`
says that an evaluation comes to a node, and an expression fails by overflow exactly if it comes to
one of the three. All operators keep to the rule, and so do decimal numerals.

The expressions are those that use no function but the two. The law is about their trees and, by way
of reading, about texts.
-/
import Formulary.Proofs.Decimals
import Formulary.Proofs.FormulaText
import Formulary.Proofs.OperatorOverflow
import Formulary.Proofs.Settling

namespace Formulary

open Number Rounding

-- Powers are those of the core library, as in the definitions that these laws are about.
attribute [local instance (high)] instPowNat

namespace Expr

/-! ## Nodes that are reached -/

/-- The evaluation of an expression comes to a node: the calls around it are accepted, and what
stands to the left of it in them and in operations has values. -/
inductive Reaches (limit : Int) (node : Expr) : Expr → Prop
  | here : Reaches limit node node
  | operand {op : UnaryOp} {operand : Expr} :
      Reaches limit node operand → Reaches limit node (.unary op operand)
  | left {op : BinaryOp} {left right : Expr} :
      Reaches limit node left → Reaches limit node (.binary op left right)
  | right {op : BinaryOp} {left right : Expr} {x : Float} :
      left.eval limit = .ok x → Reaches limit node right →
      Reaches limit node (.binary op left right)
  | argument {target a : Expr} {f : Function} {before after : List Expr} :
      target.calledFunction = .ok f → (∀ e ∈ before ++ a :: after, e.isStarred = false) →
      (∀ e ∈ before, ∃ x, e.eval limit = .ok x) → Reaches limit node a →
      Reaches limit node (.call target (before ++ a :: after) [])

variable {limit : Int} {node e : Expr} {error : EvalError}

/-- Arguments have values when each of them has one. -/
theorem evalAll_cons_ok {rest : List Expr} {xs : List Float} :
    evalAll limit (e :: rest) = .ok xs ↔
      ∃ x ys, e.eval limit = .ok x ∧ evalAll limit rest = .ok ys ∧ xs = x :: ys := by
  rw [evalAll]
  cases e.eval limit with
  | error error => simp [bind, Except.bind]
  | ok x => cases evalAll limit rest <;> simp [bind, Except.bind, pure, Except.pure, eq_comm]

theorem evalAll_nil_ok {xs : List Float} : evalAll limit [] = .ok xs ↔ xs = [] := by
  rw [evalAll]
  exact ⟨fun h => (Except.ok.inj h).symm, fun h => h ▸ rfl⟩

/-- Arguments fail with the first that fails. -/
theorem evalAll_error {before after : List Expr} {a : Expr}
    (hbefore : ∀ e ∈ before, ∃ x, e.eval limit = .ok x) (ha : a.eval limit = .error error) :
    evalAll limit (before ++ a :: after) = .error error := by
  induction before with
  | nil =>
    rw [List.nil_append, evalAll, ha]
    rfl
  | cons e rest ih =>
    obtain ⟨x, hx⟩ := hbefore e (List.mem_cons_self ..)
    rw [List.cons_append, evalAll, hx, ih fun e he => hbefore e (List.mem_cons_of_mem _ he)]
    rfl

/-- Arguments that fail have a first that fails. -/
theorem evalAll_error_inv {args : List Expr} (h : evalAll limit args = .error error) :
    ∃ before a after, args = before ++ a :: after ∧
      (∀ e ∈ before, ∃ x, e.eval limit = .ok x) ∧ a.eval limit = .error error := by
  induction args with
  | nil => cases h
  | cons e rest ih =>
    rw [evalAll] at h
    cases he : e.eval limit with
    | error first =>
      rw [he] at h
      refine ⟨[], e, rest, rfl, fun _ hmem => absurd hmem List.not_mem_nil, he.trans ?_⟩
      exact congrArg Except.error (Except.error.inj h)
    | ok x =>
      cases hrest : evalAll limit rest with
      | error first =>
        rw [he, hrest] at h
        obtain ⟨before, a, after, rfl, hbefore, ha⟩ := ih (hrest.trans h)
        refine ⟨e :: before, a, after, rfl, fun b hb => ?_, ha⟩
        rcases List.mem_cons.mp hb with rfl | hb
        · exact ⟨x, he⟩
        · exact hbefore b hb
      | ok xs =>
        rw [he, hrest] at h
        cases h

/-- A call whose form is accepted evaluates its arguments and applies the function. -/
theorem eval_call {target : Expr} {f : Function} {args : List Expr}
    (htarget : target.calledFunction = .ok f) (hplain : ∀ e ∈ args, e.isStarred = false) :
    (call target args []).eval limit = (do
      let values ← evalAll limit args
      match f.apply values with
      | .ok x => pure x
      | .error failure => throw (.function failure)) := by
  have hform : (!([] : List Expr).isEmpty || args.any isStarred) = false := by
    simpa [List.any_eq_false] using hplain
  rw [eval, htarget]
  simp only [hform, bind, Except.bind]
  rfl

/-- **The failure of a node that is reached is the failure of the expression.** -/
theorem eval_error_of_reaches (h : Reaches limit node e) (herror : node.eval limit = .error error) :
    e.eval limit = .error error := by
  induction h with
  | here => exact herror
  | operand _ ih =>
    rw [eval, ih]
    rfl
  | left _ ih =>
    rw [eval, ih]
    rfl
  | right hleft _ ih =>
    rw [eval, hleft, ih]
    rfl
  | argument htarget hplain hbefore _ ih =>
    rw [eval_call htarget hplain, evalAll_error hbefore ih]
    rfl

/-! ## Failures by overflow -/

/-- The expressions that the rule is about: numerals, constants, signs, operators, and the two
functions whose results can be too large. -/
inductive Elementary : Expr → Prop
  | int (n : Nat) : Elementary (.literal (.int n))
  | float (x : Float) : Elementary (.literal (.float x))
  | constant {id : Text} {x : Float} : constant? id = some x → Elementary (.name id)
  | unary (op : UnaryOp) {operand : Expr} : Elementary operand → Elementary (.unary op operand)
  | binary (op : BinaryOp) {left right : Expr} :
      Elementary left → Elementary right → Elementary (.binary op left right)
  | exp {a : Expr} : Elementary a → Elementary (.call (.name Function.exp.name.toList) [a] [])
  | pow {base exponent : Expr} : Elementary base → Elementary exponent →
      Elementary (.call (.name Function.pow.name.toList) [base, exponent] [])

/-- The nodes that fail by overflow themselves: an integer that is too large, and a function at
arguments that the library refuses as out of range. -/
inductive Overflows (limit : Int) : Expr → Prop
  | literal {n : Nat} : tooLarge ≤ n → Overflows limit (.literal (.int n))
  | exp {a : Expr} {x : Float} : a.eval limit = .ok x → x.isFinite = true →
      (Float.exp x).isInf = true → Overflows limit (.call (.name Function.exp.name.toList) [a] [])
  | pow {base exponent : Expr} {x y : Float} : base.eval limit = .ok x →
      exponent.eval limit = .ok y → Function.powRefusal? x y = some .range →
      Overflows limit (.call (.name Function.pow.name.toList) [base, exponent] [])

theorem cast_two_pow_sub {a b : Nat} (h : b ≤ a) : ((2 ^ a - 2 ^ b : Nat) : ℚ) = 2 ^ a - 2 ^ b := by
  rw [Nat.cast_sub (Nat.pow_le_pow_right two_pos h), Nat.cast_pow, Nat.cast_pow, Nat.cast_two]

/-- An integer is read as long as it is not too large. -/
theorem ofInt?_eq_none_iff (n : Nat) : ofInt? n = none ↔ tooLarge ≤ n := by
  -- The bound is kept abstract, so that it is not computed.
  obtain ⟨bound, hbound, hofInt⟩ : ∃ bound : Nat, tooLarge = bound ∧
      ofInt? n = if n < bound then some (Float.ofInt n) else none :=
    ⟨_, (cast_two_pow_sub (show 970 ≤ 1024 by decide)).symm, by rw [ofInt?, Int.natAbs_natCast]⟩
  rw [hofInt, hbound, Nat.cast_le]
  split
  case isTrue hfits => exact iff_of_false (Option.some_ne_none _) hfits.not_ge
  case isFalse hlarge => exact iff_of_true rfl (not_lt.mp hlarge)

theorem eval_int_error_iff {n : Nat} :
    (literal (.int n)).eval limit = .error error ↔ tooLarge ≤ n ∧ error = .literalTooLarge := by
  rw [Formula.eval_numeral, ← ofInt?_eq_none_iff]
  cases ofInt? n <;> simp [eq_comm]

theorem isStarred_of_eval_ok {x : Float} (h : e.eval limit = .ok x) : e.isStarred = false := by
  cases e with
  | literal | name | unary | binary | call => rfl
  | foreign construct parts =>
    rw [eval_foreign] at h
    cases h

theorem Elementary.isStarred (h : Elementary e) : e.isStarred = false := by
  cases h <;> rfl

/-- `exp` overflows where it makes a finite number infinite. -/
theorem apply_exp_overflow {x : Float} :
    (∃ failure, Function.exp.apply [x] = .error failure ∧ failure.name = "OverflowError") ↔
      x.isFinite = true ∧ (Float.exp x).isInf = true := by
  change (∃ failure, Function.checked true Float.exp x = _ ∧ _) ↔ _
  rw [Function.checked]
  generalize Float.exp x = y
  cases hinf : y.isInf with
  | true =>
    have hnan : y.isNaN = false := by
      rcases eq_infinity_or_of_isInf hinf with rfl | rfl <;> rfl
    rw [hnan]
    cases x.isFinite with
    | true => exact iff_of_true ⟨.range, rfl, rfl⟩ ⟨rfl, rfl⟩
    | false => exact iff_of_false nofun nofun
  | false =>
    refine iff_of_false ?_ nofun
    cases y.isNaN && !x.isNaN with
    | true =>
      rintro ⟨failure, hfailure, hname⟩
      cases hfailure
      exact absurd hname (by decide)
    | false => exact nofun

theorem powRefusal?_cases {x y : Float} {failure : Function.Failure}
    (h : Function.powRefusal? x y = some failure) : failure = .domain ∨ failure = .range := by
  rw [Function.powRefusal?] at h
  split at h
  case isFalse => cases h
  case isTrue =>
    split at h
    case isTrue => exact .inl (Option.some.inj h).symm
    case isFalse =>
      split at h
      case isTrue => exact .inr (Option.some.inj h).symm
      case isFalse => cases h

/-- `pow` overflows where it refuses its arguments as out of range. -/
theorem apply_pow_overflow {x y : Float} :
    (∃ failure, Function.pow.apply [x, y] = .error failure ∧ failure.name = "OverflowError") ↔
      Function.powRefusal? x y = some .range := by
  change (∃ failure, Function.realPower x y = _ ∧ _) ↔ _
  rw [Function.realPower_eq]
  constructor
  · rintro ⟨failure, hfailure, hname⟩
    cases hrefusal : Function.powRefusal? x y with
    | none =>
      rw [hrefusal] at hfailure
      cases hfailure
    | some refusal =>
      rw [hrefusal] at hfailure
      cases hfailure
      rcases powRefusal?_cases hrefusal with rfl | rfl
      · exact absurd hname (by decide)
      · rfl
  · intro hrange
    rw [hrange]
    exact ⟨.range, rfl, rfl⟩

/-- An operator fails by the limit on exponents only. -/
theorem BinaryOp.name_of_apply_error {op : BinaryOp} {x y : Float}
    (h : op.apply limit x y = .error error) : error.name = "LimitExceeded" := by
  cases op with
  | power =>
    rw [BinaryOp.apply] at h
    split at h
    case isTrue =>
      cases h
      rfl
    case isFalse => cases h
  | add | subtract | multiply | divide | floorDivide | modulo => cases h

/-! ## The rule -/

theorem Overflows.eval_error (h : Overflows limit node) :
    ∃ error, node.eval limit = .error error ∧ error.name = "OverflowError" := by
  cases h with
  | literal hlarge => exact ⟨_, eval_int_error_iff.mpr ⟨hlarge, rfl⟩, rfl⟩
  | @exp a x ha hfinite hinf =>
    obtain ⟨failure, hfailure, hname⟩ := apply_exp_overflow.mpr ⟨hfinite, hinf⟩
    refine ⟨.function failure, ?_, hname⟩
    have hargs : evalAll limit [a] = .ok [x] :=
      evalAll_cons_ok.mpr ⟨x, [], ha, evalAll_nil_ok.mpr rfl, rfl⟩
    rw [eval_call (f := .exp) rfl (by simpa using isStarred_of_eval_ok ha), hargs]
    simp only [bind, Except.bind, hfailure]
    rfl
  | @pow base exponent x y hbase hexponent hrange =>
    obtain ⟨failure, hfailure, hname⟩ := apply_pow_overflow.mpr hrange
    refine ⟨.function failure, ?_, hname⟩
    have hargs : evalAll limit [base, exponent] = .ok [x, y] :=
      evalAll_cons_ok.mpr ⟨x, [y], hbase, evalAll_cons_ok.mpr
        ⟨y, [], hexponent, evalAll_nil_ok.mpr rfl, rfl⟩, rfl⟩
    have hplain : ∀ e ∈ [base, exponent], e.isStarred = false := by
      simpa using ⟨isStarred_of_eval_ok hbase, isStarred_of_eval_ok hexponent⟩
    rw [eval_call (f := .pow) rfl hplain, hargs]
    simp only [bind, Except.bind, hfailure]
    rfl

/-- A call that fails comes to an argument that fails, or its function does. -/
theorem eval_call_error {target : Expr} {f : Function} {args : List Expr}
    (htarget : target.calledFunction = .ok f) (hplain : ∀ e ∈ args, e.isStarred = false)
    (h : (call target args []).eval limit = .error error) :
    (∃ a ∈ args, a.eval limit = .error error ∧
        ∀ node, Reaches limit node a → Reaches limit node (call target args [])) ∨
      ∃ xs failure, evalAll limit args = .ok xs ∧ f.apply xs = .error failure ∧
        error = .function failure := by
  rw [eval_call htarget hplain] at h
  cases hargs : evalAll limit args with
  | error first =>
    rw [hargs] at h
    cases h
    obtain ⟨before, a, after, rfl, hbefore, ha⟩ := evalAll_error_inv hargs
    exact .inl ⟨a, by simp, ha, fun node => .argument htarget hplain hbefore⟩
  | ok xs =>
    rw [hargs] at h
    simp only [bind, Except.bind] at h
    cases happly : f.apply xs with
    | ok x =>
      rw [happly] at h
      cases h
    | error failure =>
      rw [happly] at h
      exact .inr ⟨xs, failure, rfl, happly, (Except.error.inj h).symm⟩

/-- An expression that fails by overflow comes to a node that does. -/
theorem exists_overflows (he : Elementary e) (h : e.eval limit = .error error)
    (hname : error.name = "OverflowError") :
    ∃ node, Reaches limit node e ∧ Overflows limit node := by
  induction he with
  | int n => exact ⟨_, .here, .literal (eval_int_error_iff.mp h).1⟩
  | float x => cases h
  | constant hx =>
    rw [eval, hx] at h
    cases h
  | @unary op operand hoperand ih =>
    rw [eval] at h
    cases hx : operand.eval limit with
    | error first =>
      rw [hx] at h
      obtain ⟨node, hreach, hover⟩ := ih (hx.trans h)
      exact ⟨node, .operand hreach, hover⟩
    | ok x =>
      rw [hx] at h
      cases h
  | @binary op left right hleft hright ihleft ihright =>
    rw [eval] at h
    cases hx : left.eval limit with
    | error first =>
      rw [hx] at h
      obtain ⟨node, hreach, hover⟩ := ihleft (hx.trans h)
      exact ⟨node, .left hreach, hover⟩
    | ok x =>
      cases hy : right.eval limit with
      | error first =>
        rw [hx, hy] at h
        obtain ⟨node, hreach, hover⟩ := ihright (hy.trans h)
        exact ⟨node, .right hx hreach, hover⟩
      | ok y =>
        rw [hx, hy] at h
        rw [BinaryOp.name_of_apply_error h] at hname
        exact absurd hname (by decide)
  | @exp a ha ih =>
    rcases eval_call_error (f := .exp) rfl (by simpa using ha.isStarred) h with
      ⟨a', ha', herror, hreaches⟩ | ⟨xs, failure, hargs, hfailure, rfl⟩
    · cases List.mem_singleton.mp ha'
      obtain ⟨node, hreach, hover⟩ := ih herror
      exact ⟨node, hreaches node hreach, hover⟩
    · obtain ⟨x, ys, hx, hys, rfl⟩ := evalAll_cons_ok.mp hargs
      cases evalAll_nil_ok.mp hys
      obtain ⟨hfinite, hinf⟩ := apply_exp_overflow.mp ⟨failure, hfailure, hname⟩
      exact ⟨_, .here, .exp hx hfinite hinf⟩
  | @pow base exponent hbase hexponent ihbase ihexponent =>
    have hplain : ∀ e ∈ [base, exponent], e.isStarred = false := by
      simpa using ⟨hbase.isStarred, hexponent.isStarred⟩
    rcases eval_call_error (f := .pow) rfl hplain h with
      ⟨a, ha, herror, hreaches⟩ | ⟨xs, failure, hargs, hfailure, rfl⟩
    · have hnode : ∃ node, Reaches limit node a ∧ Overflows limit node := by
        rcases List.mem_pair.mp ha with rfl | rfl
        · exact ihbase herror
        · exact ihexponent herror
      obtain ⟨node, hreach, hover⟩ := hnode
      exact ⟨node, hreaches node hreach, hover⟩
    · obtain ⟨x, ys, hx, hys, rfl⟩ := evalAll_cons_ok.mp hargs
      obtain ⟨y, zs, hy, hzs, rfl⟩ := evalAll_cons_ok.mp hys
      cases evalAll_nil_ok.mp hzs
      exact ⟨_, .here, .pow hx hy (apply_pow_overflow.mp ⟨failure, hfailure, hname⟩)⟩

/-- An expression fails by overflow exactly if it comes to a node that does. -/
theorem outcome_overflow_iff (he : Elementary e) :
    outcome (e.eval limit) = .error "OverflowError" ↔
      ∃ node, Reaches limit node e ∧ Overflows limit node := by
  constructor
  · intro h
    cases heval : e.eval limit with
    | ok x =>
      rw [heval] at h
      cases h
    | error error =>
      rw [heval] at h
      exact exists_overflows he heval (Except.error.inj h)
  · rintro ⟨node, hreach, hover⟩
    obtain ⟨error, herror, hname⟩ := hover.eval_error
    rw [eval_error_of_reaches hreach herror]
    exact congrArg Except.error hname

/-- Where the rule is kept: by numerals other than large integers, and by operators. -/
structure OverflowRule (limit : Int) : Prop where
  /-- An integer that is not too large is a nearest double. -/
  integer : ∀ n : Nat, (n : ℚ) < tooLarge →
    ∃ x, (literal (.int n)).eval limit = .ok x ∧ IsRounded n x
  /-- A decimal numeral is infinite. -/
  decimal : ∀ (digits : Nat) (exponent : Int), tooLarge ≤ digits * 10 ^ exponent →
    ofDecimal digits exponent = infinity
  /-- An operation is the infinity with the sign of its exact result. -/
  operation : ∀ (op : BinaryOp) (left right : Expr) (x y : Float) (b c : Binary) (q : ℚ),
    left.eval limit = .ok x → right.eval limit = .ok y →
    Binary.ofFloat? x = some b → Binary.ofFloat? y = some c →
    op.exactResult? b.value c.value = some q → tooLarge ≤ |q| →
    (binary op left right).eval limit = .ok (if q < 0 then -infinity else infinity)
  /-- A power within the limit is the infinity with its sign when it is written with the operator,
  and is refused when it is written with the function. -/
  power : ∀ (left right : Expr) (x y : Float),
    left.eval limit = .ok x → right.eval limit = .ok y →
    exceedsExponent limit y = false → IsPowerTooLarge x y →
    (binary .power left right).eval limit
        = .ok (if x < 0 ∧ isOdd y = true then -infinity else infinity) ∧
      (call (name Function.pow.name.toList) [left, right] []).eval limit
        = .error (.function .range)

theorem overflowRule (limit : Int) : OverflowRule limit where
  integer n hsmall := by
    cases hread : ofInt? n with
    | none => exact absurd ((ofInt?_eq_none_iff n).mp hread) hsmall.not_ge
    | some x =>
      have hx : Float.ofNat n = x := by
        rw [ofInt?] at hread
        split at hread
        case isTrue => exact Option.some.inj hread
        case isFalse => cases hread
      refine ⟨x, by rw [Formula.eval_numeral, hread], ?_⟩
      rw [← hx]
      exact isRounded_ofNat n
  decimal digits exponent hlarge := by
    have hnonneg : (0 : ℚ) ≤ digits * 10 ^ exponent :=
      mul_nonneg (Nat.cast_nonneg _) (zpow_nonneg (by norm_num) _)
    have hrounded := (isRounded_ofDecimal digits exponent).overflow
    rw [abs_of_nonneg hnonneg, if_neg hnonneg.not_gt] at hrounded
    exact hrounded hlarge
  operation op left right x y b c q hx hy hb hc hq hlarge :=
    eval_binary_ok.mpr ⟨x, y, hx, hy, op.apply_of_tooLarge hb hc hq hlarge limit⟩
  power left right x y hx hy hlimit hlarge := by
    constructor
    · refine eval_binary_ok.mpr ⟨x, y, hx, hy, ?_⟩
      rw [BinaryOp.apply, hlimit, power_of_tooLarge hlarge]
      rfl
    · rw [eval_pow (isStarred_of_eval_ok hx) (isStarred_of_eval_ok hy), hx, hy]
      simp only [bind, Except.bind, Function.realPower_eq, powRefusal?_of_tooLarge hlarge]
      rfl

/-- **Overflow is infinite, but for integers and two functions.** A formula of numerals, constants,
signs, operators, `exp` and `pow` fails by overflow exactly if its evaluation comes to an integer
that is too large, or to one of the two functions at arguments that are out of range. Everywhere
else a number that is too large is infinite. -/
theorem evaluate_overflow {limits : Limits} {text : Text}
    (hread : Expr.ofText? (formulaSource text) = some e) (he : Elementary e) :
    ((evaluate limits text).mapError Rejection.name = .error "OverflowError" ↔
      (text.length : Int) ≤ limits.maxLength ∧ (formulaSource text).contains '\x00' = false ∧
        ∃ node, Reaches limits.maxExponent node e ∧ Overflows limits.maxExponent node) ∧
    OverflowRule limits.maxExponent := by
  refine ⟨?_, overflowRule _⟩
  by_cases hlength : (text.length : Int) ≤ limits.maxLength
  · cases hnull : (formulaSource text).contains '\x00' with
    | true =>
      refine iff_of_false (fun h => ?_) nofun
      rw [evaluate, if_neg (Int.not_lt.mpr hlength)] at h
      simp only [hnull, if_true] at h
      exact absurd (Except.error.inj h) (by decide)
    | false =>
      have hsame : (evaluate limits text).mapError Rejection.name
          = outcome (e.eval limits.maxExponent) := by
        rw [evaluate_of_ofText? hlength hnull hread]
        cases e.eval limits.maxExponent <;> rfl
      rw [hsame, outcome_overflow_iff he]
      exact ⟨fun hnode => ⟨hlength, rfl, hnode⟩, fun h => h.2.2⟩
  · refine iff_of_false (fun h => ?_) fun h => hlength h.1
    rw [evaluate, if_pos (Int.not_le.mp hlength)] at h
    exact absurd (Except.error.inj h) (show "LimitExceeded" ≠ "OverflowError" by decide)

/-- The product of two numbers of two hundred digits is too large, and so it is an infinity. -/
theorem evaluate_overflow_product :
    let digits := '1' :: List.replicate 200 '0'
    let limits : Limits := { maxLength := 1000, maxExponent := 1000 }
    evaluate limits (digits ++ "*-".toList ++ digits) = .ok (-infinity) := by
  intro digits limits
  let f : Formula Empty :=
    .binary .multiply (.numeral (10 ^ 200)) (.signed .minus (.numeral (10 ^ 200)))
  let operand : Expr := literal (.int (10 ^ 200))
  have hdigits : digits ∈ Token.spellings (.number (.int (10 ^ 200))) := by decide +kernel
  have hrendered : Rendered Token.IsSpelled (f.tokens Formula.sparing .whole)
      (digits ++ (['*'] ++ (['-'] ++ (digits ++ [])))) :=
    .item digits (.listed hdigits) <| .item ['*'] (.listed (by decide)) <|
    .item ['-'] (.listed (by decide)) <| .item digits (.listed hdigits) <| .nil (by decide)
  rw [List.append_nil, ← List.append_assoc, ← List.append_assoc, List.append_assoc digits]
    at hrendered
  change Rendered _ _ (digits ++ "*-".toList ++ digits) at hrendered
  have hread : Expr.ofText? (formulaSource (digits ++ "*-".toList ++ digits))
      = some (binary .multiply operand (unary .minus operand)) := by
    refine ofText?_formulaSource hrendered (fun before hbefore => ?_) (by decide +kernel)
    have hcount := hbefore.sublist.count_le '('
    have hnone : (digits ++ "*-".toList ++ digits).count '(' = 0 := by decide +kernel
    omega
  have helementary : Elementary (binary .multiply operand (unary .minus operand)) :=
    .binary .multiply (.int _) (.unary .minus (.int _))
  have hoperand : operand.eval 1000 = .ok 1e200 := by
    have hint : ofInt? ((10 ^ 200 : Nat) : Int) = some 1e200 := by decide +kernel
    rw [Formula.eval_numeral, hint]
  have hopposite : (unary .minus operand).eval 1000 = .ok (-1e200) :=
    eval_unary_ok.mpr ⟨1e200, hoperand, rfl⟩
  let b : Binary := ⟨false, 5883593420661338, 612⟩
  let c : Binary := ⟨true, 5883593420661338, 612⟩
  have hproduct : b.value * c.value = -(5883593420661338 ^ 2 * 2 ^ (1224 : ℤ)) := by
    have hb : b.value = (5883593420661338 : ℤ) * 2 ^ (612 : ℤ) := rfl
    have hc : c.value = (-5883593420661338 : ℤ) * 2 ^ (612 : ℤ) := rfl
    have hsquare : (2 : ℚ) ^ (1224 : ℤ) = 2 ^ (612 : ℤ) * 2 ^ (612 : ℤ) :=
      zpow_add₀ two_ne_zero 612 612
    rw [hb, hc, hsquare, Int.cast_neg, Int.cast_ofNat]
    generalize (2 : ℚ) ^ (612 : ℤ) = unit
    ring
  have hpos : (0 : ℚ) < 5883593420661338 ^ 2 * 2 ^ (1224 : ℤ) :=
    mul_pos (by norm_num) (two_zpow_pos 1224)
  have hlarge : tooLarge ≤ |b.value * c.value| := by
    rw [hproduct, abs_neg, abs_of_pos hpos]
    exact tooLarge_le (c := 2 ^ 53 - 1 / 2) (by norm_num) (by norm_num) (by norm_num)
      tooLarge_eq.le
  have hvalue := (@evaluate_overflow _ limits _ hread helementary).2.operation
    .multiply operand (unary .minus operand) 1e200 (-1e200) b c _ hoperand hopposite
    (by decide +kernel) (by decide +kernel) rfl hlarge
  rw [hproduct, if_pos (neg_lt_zero.mpr hpos)] at hvalue
  rw [evaluate_of_ofText? (by decide +kernel) (by decide +kernel) hread, hvalue]
  rfl

/-- A numeral of more digits than the greatest double has is refused where it stands. -/
theorem evaluate_overflow_numeral :
    let limits : Limits := { maxLength := 1000, maxExponent := 1000 }
    (evaluate limits ('1' :: List.replicate 309 '0')).mapError Rejection.name
      = .error "OverflowError" := by
  decide +kernel

end Expr

end Formulary
