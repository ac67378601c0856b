/-
Formulary.Proofs.ExponentLimit — operators fail by the limit on exponents only.

Every operator has a value for all numbers: divisors may be zero, powers may be too large, and zero
and negative numbers may be raised to any power. Of an expression without calls, then, the limit on
exponents is all that can stop the evaluation. What it would come to without the limit is
`unlimited`, and `powers` lists the powers in the order in which they are computed, each behind
those in its operands. The evaluation gives the number if no power in the list exceeds the limit,
and otherwise it fails at the first that does.

The law holds of the evaluation with primitives that raise, too: none of their exceptions comes out.
-/
import Formulary.Proofs.Escaping
import Formulary.Proofs.Overflow

namespace Formulary

/-! ## The limit -/

/-- The size of a number is compared with an integer as the rational numbers are. -/
theorem Binary.compareMagnitude_eq_gt_iff (b : Binary) (n : Int) :
    b.compareMagnitude n = .gt ↔ (n : ℚ) < |b.value| := by
  rw [compareMagnitude, Number.abs_value]
  split
  case isTrue hwhole =>
    obtain ⟨k, hk⟩ := Int.eq_ofNat_of_zero_le hwhole
    rw [compare_gt_iff_gt, hk, Int.toNat_natCast, zpow_natCast]
    exact_mod_cast Iff.rfl
  case isFalse hfraction =>
    obtain ⟨k, hk⟩ := Int.exists_eq_neg_ofNat (Int.le_of_not_le hfraction)
    rw [compare_gt_iff_gt, hk, neg_neg, Int.toNat_natCast, zpow_neg, zpow_natCast,
      ← div_eq_mul_inv, lt_div_iff₀ (pow_pos two_pos k)]
    exact_mod_cast Iff.rfl

variable {limit : Int}

/-- An exponent is refused when it is finite and its size is above the limit. -/
theorem exceedsExponent_iff {x : Float} :
    exceedsExponent limit x = true ↔
      ∃ b, Binary.ofFloat? x = some b ∧ (limit : ℚ) < |b.value| := by
  rw [exceedsExponent]
  cases Binary.ofFloat? x with
  | none => exact iff_of_false nofun nofun
  | some b => simp [← b.compareMagnitude_eq_gt_iff]

/-- The value of an operator when exponents are not limited. -/
def BinaryOp.unlimited : BinaryOp → Float → Float → Float
  | .add, a, b => a + b
  | .subtract, a, b => a - b
  | .multiply, a, b => a * b
  | .divide, a, b => Number.divide a b
  | .floorDivide, a, b => Number.floorDivide a b
  | .modulo, a, b => Number.modulo a b
  | .power, a, b => Number.power a b

/-- A power with an excessive exponent fails, and no other operation does. -/
theorem BinaryOp.apply_eq (op : BinaryOp) (a b : Float) :
    op.apply limit a b =
      if op = .power ∧ exceedsExponent limit b = true then .error (.exponentTooLarge b limit)
      else .ok (op.unlimited a b) := by
  cases op with
  | power =>
    rw [apply]
    cases exceedsExponent limit b <;> rfl
  | add | subtract | multiply | divide | floorDivide | modulo => rfl

namespace Expr

/-! ## Operations -/

/-- Expressions without calls: numerals that a double can hold, constants, signs and operators. -/
inductive IsOperation : Expr → Prop
  | int {n : Nat} {x : Float} : Number.ofInt? n = some x → IsOperation (.literal (.int n))
  | float (x : Float) : IsOperation (.literal (.float x))
  | constant {id : Text} {x : Float} : constant? id = some x → IsOperation (.name id)
  | unary (op : UnaryOp) {operand : Expr} : IsOperation operand → IsOperation (.unary op operand)
  | binary (op : BinaryOp) {left right : Expr} :
      IsOperation left → IsOperation right → IsOperation (.binary op left right)

/-- The value of an operation when exponents are not limited. Where an expression has none, the
undefined number stands for it. -/
def unlimited : Expr → Float
  | .literal (.int n) => (Number.ofInt? n).getD Number.undefined
  | .literal (.float x) => x
  | .name id => (constant? id).getD Number.undefined
  | .unary op operand => op.apply operand.unlimited
  | .binary op left right => op.unlimited left.unlimited right.unlimited
  | .literal _ | .call .. | .foreign .. => Number.undefined

/-- A power in an expression. -/
structure Power where
  base : Expr
  exponent : Expr

namespace Power

/-- The node of a power. -/
def node (p : Power) : Expr :=
  .binary .power p.base p.exponent

/-- The exponent of the power is a finite number with a size above the limit. -/
def Exceeds (limit : Int) (p : Power) : Prop :=
  ∃ b, Binary.ofFloat? p.exponent.unlimited = some b ∧ (limit : ℚ) < |b.value|

/-- Whether the exponent of the power is refused. -/
def exceeds (limit : Int) (p : Power) : Bool :=
  exceedsExponent limit p.exponent.unlimited

theorem exceeds_iff {p : Power} : p.exceeds limit = true ↔ p.Exceeds limit :=
  exceedsExponent_iff

end Power

/-- The powers in an expression, from left to right, each behind the powers in its operands. -/
def powers : Expr → List Power
  | .unary _ operand => operand.powers
  | .binary op left right =>
    left.powers ++ right.powers ++ if op = .power then [⟨left, right⟩] else []
  | .literal _ | .name _ | .call .. | .foreign .. => []

variable {e left right : Expr} {op : BinaryOp} {p : Power}

/-- The first power of an operation that is refused is in an operand, or it is the operation. -/
theorem find?_powers_binary :
    (binary op left right).powers.find? (Power.exceeds limit) =
      ((left.powers.find? (Power.exceeds limit)).or
        (right.powers.find? (Power.exceeds limit))).or
        (if op = .power ∧ exceedsExponent limit right.unlimited = true then some ⟨left, right⟩
          else none) := by
  rw [powers, List.find?_append, List.find?_append]
  congr 1
  by_cases hop : op = .power
  · rw [if_pos hop, List.find?_singleton, Power.exceeds]
    simp only [hop, true_and]
  · rw [if_neg hop, if_neg fun h => hop h.1, List.find?_nil]

/-- **An operation has its value without the limit, or it fails at the first power whose exponent
exceeds the limit.** -/
theorem IsOperation.eval_eq (he : e.IsOperation) :
    e.eval limit =
      (e.powers.find? (Power.exceeds limit)).elim (.ok e.unlimited)
        fun p => .error (.exponentTooLarge p.exponent.unlimited limit) := by
  induction he with
  | @int n x hn =>
    rw [Formula.eval_numeral, powers, unlimited, hn]
    rfl
  | float x => rfl
  | constant hid =>
    rw [eval, powers, unlimited, hid]
    rfl
  | unary op _ ih =>
    rw [eval, ih, powers, unlimited]
    cases List.find? _ _ <;> rfl
  | @binary op left right _ _ ihleft ihright =>
    rw [eval, ihleft, ihright, find?_powers_binary, unlimited]
    cases left.powers.find? _ with
    | some p => rfl
    | none =>
      cases right.powers.find? _ with
      | some p => rfl
      | none =>
        change op.apply limit left.unlimited right.unlimited = _
        rw [op.apply_eq]
        split <;> rfl

/-- The evaluation comes to the first power that is refused, and its operands have values there. -/
theorem IsOperation.reaches (he : e.IsOperation)
    (hfirst : e.powers.find? (Power.exceeds limit) = some p) :
    Reaches limit p.node e ∧ p.base.eval limit = .ok p.base.unlimited ∧
      p.exponent.eval limit = .ok p.exponent.unlimited := by
  induction he with
  | int | float | constant => cases hfirst
  | unary op _ ih =>
    obtain ⟨hreaches, hoperands⟩ := ih hfirst
    exact ⟨.operand hreaches, hoperands⟩
  | @binary op left right hleft hright ihleft ihright =>
    rw [find?_powers_binary] at hfirst
    cases hl : left.powers.find? (Power.exceeds limit) with
    | some q =>
      rw [hl] at hfirst
      obtain ⟨hreaches, hoperands⟩ := ihleft (hl.trans hfirst)
      exact ⟨.left hreaches, hoperands⟩
    | none =>
      have hleftValue : left.eval limit = .ok left.unlimited := by
        rw [hleft.eval_eq, hl]
        rfl
      cases hr : right.powers.find? (Power.exceeds limit) with
      | some q =>
        rw [hl, hr] at hfirst
        obtain ⟨hreaches, hoperands⟩ := ihright (hr.trans hfirst)
        exact ⟨.right hleftValue hreaches, hoperands⟩
      | none =>
        have hrightValue : right.eval limit = .ok right.unlimited := by
          rw [hright.eval_eq, hr]
          rfl
        rw [hl, hr, Option.none_or, Option.none_or] at hfirst
        obtain ⟨⟨rfl, -⟩, hp⟩ := Option.ite_none_right_eq_some.mp hfirst
        obtain rfl := Option.some.inj hp
        exact ⟨.here, hleftValue, hrightValue⟩

/-- **Operators never fail except by the limit on exponents.** If no power of an operation exceeds
the limit, then the operation has its value without the limit. Otherwise the evaluation comes to the
first power that does, with the values of its operands without the limit, and it fails there. Both
are so when the primitives underneath raise. -/
theorem eval_operation (he : e.IsOperation) (limit : Int) :
    ((∀ p ∈ e.powers, ¬ p.Exceeds limit) →
      e.eval limit = .ok e.unlimited ∧ e.walk limit = .ok e.unlimited) ∧
    ∀ before p after, e.powers = before ++ p :: after → (∀ q ∈ before, ¬ q.Exceeds limit) →
      p.Exceeds limit →
      Reaches limit p.node e ∧ p.base.eval limit = .ok p.base.unlimited ∧
      p.exponent.eval limit = .ok p.exponent.unlimited ∧
      e.eval limit = .error (.exponentTooLarge p.exponent.unlimited limit) ∧
      e.walk limit = .error (.report "LimitExceeded"
        (EvalError.exponentTooLarge p.exponent.unlimited limit).message) := by
  refine ⟨fun hnone => ?_, fun before p after hsplit hbefore hp => ?_⟩
  · have hfind : e.powers.find? (Power.exceeds limit) = none :=
      List.find?_eq_none.mpr fun p hp h => hnone p hp (Power.exceeds_iff.mp h)
    have hvalue : e.eval limit = .ok e.unlimited := by
      rw [he.eval_eq, hfind]
      rfl
    refine ⟨hvalue, ?_⟩
    rw [walk_eq, hvalue]
    rfl
  · have hfind : e.powers.find? (Power.exceeds limit) = some p := by
      refine List.find?_eq_some_iff_append.mpr
        ⟨Power.exceeds_iff.mpr hp, before, after, hsplit, fun q hq => ?_⟩
      rw [Bool.not_eq_true', ← Bool.not_eq_true, Power.exceeds_iff]
      exact hbefore q hq
    have hfailure : e.eval limit = .error (.exponentTooLarge p.exponent.unlimited limit) := by
      rw [he.eval_eq, hfind]
      rfl
    obtain ⟨hreaches, hbase, hexponent⟩ := he.reaches hfind
    refine ⟨hreaches, hbase, hexponent, hfailure, ?_⟩
    rw [walk_eq, hfailure]
    rfl

/-- Neither a quotient by zero nor an infinite exponent stops an evaluation. Of two exponents above
the limit the left one is reported, although it stands deeper in the tree, and a greater limit lets
both pass. -/
theorem eval_operation_two_powers :
    let numeral n := literal (.int n)
    let quotient := binary .divide (numeral 1) (numeral 0)
    let difference := binary .subtract (binary .power (numeral 2) quotient)
      (binary .power (numeral 3) (numeral 1001))
    let e := binary .power difference (numeral 2000)
    e.IsOperation ∧
      e.walk 1000
        = .error (.report "LimitExceeded" "exponent 1001.0 exceeds maximum of 1000".toList) ∧
      e.walk 5000 = .ok e.unlimited := by
  intro numeral quotient difference e
  have hnumeral : ∀ n ∈ [0, 1, 2, 3, 1001, 2000], (numeral n).IsOperation := by
    intro n hn
    have hsome : ∀ n ∈ [0, 1, 2, 3, 1001, 2000], (Number.ofInt? (n : Nat)).isSome = true := by
      decide +kernel
    obtain ⟨x, hx⟩ := Option.isSome_iff_exists.mp (hsome n hn)
    exact .int hx
  have hquotient : quotient.IsOperation :=
    .binary .divide (hnumeral 1 (by decide)) (hnumeral 0 (by decide))
  have hdifference : difference.IsOperation :=
    .binary .subtract (.binary .power (hnumeral 2 (by decide)) hquotient)
      (.binary .power (hnumeral 3 (by decide)) (hnumeral 1001 (by decide)))
  have he : e.IsOperation := .binary .power hdifference (hnumeral 2000 (by decide))
  have hinfinite : ¬ Power.Exceeds 1000 ⟨numeral 2, quotient⟩ :=
    Power.exceeds_iff.not.mp (by decide +kernel)
  have hsmall : ∀ p ∈ e.powers, ¬ p.Exceeds 5000 := by
    have hnone : ∀ p ∈ e.powers, ¬ p.exceeds 5000 = true := by decide +kernel
    exact fun p hp => Power.exceeds_iff.not.mp (hnone p hp)
  have hreport := ((eval_operation he 1000).2 [⟨numeral 2, quotient⟩] ⟨numeral 3, numeral 1001⟩
    [⟨difference, numeral 2000⟩] rfl (by simpa using hinfinite)
    (Power.exceeds_iff.mp (by decide +kernel))).2.2.2.2
  have hmessage : (EvalError.exponentTooLarge (numeral 1001).unlimited 1000).message
      = "exponent 1001.0 exceeds maximum of 1000".toList := by decide +kernel
  rw [hmessage] at hreport
  exact ⟨he, hreport, ((eval_operation he 5000).1 hsmall).2⟩

end Expr

end Formulary
