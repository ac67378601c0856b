/-
Formulary.Proofs.Whitelist — a number comes out of whitelisted nodes only.

Formula text is somebody else's text, so the evaluator is a boundary: what it gives a value to must
consist of nothing but the arithmetic of the calculator, down to the last leaf. `Admitted` is the
whitelist for one node on its own, and `Within` reaches every node of a tree, also those that no
evaluation would ever visit: keyword values, the parts of foreign constructs, a computed call
target.

A plain name in the place of a call target is no node of its own here. It is looked up among the
functions and not among the constants, so it is judged together with the call that it belongs to.
-/
import Formulary.Proofs.Evaluating

namespace Formulary.Expr

/-! ## The nodes of a tree -/

/-- `Within n e`: the node `n` stands somewhere in the expression `e`. -/
inductive Within (n : Expr) : Expr → Prop
  | here : Within n n
  | operand {op : UnaryOp} {operand : Expr} :
      Within n operand → Within n (.unary op operand)
  | left {op : BinaryOp} {left right : Expr} :
      Within n left → Within n (.binary op left right)
  | right {op : BinaryOp} {left right : Expr} :
      Within n right → Within n (.binary op left right)
  | target {target : Expr} {args keywords : List Expr} :
      (∀ id, target ≠ .name id) → Within n target → Within n (.call target args keywords)
  | argument {target a : Expr} {args keywords : List Expr} :
      a ∈ args → Within n a → Within n (.call target args keywords)
  | keyword {target k : Expr} {args keywords : List Expr} :
      k ∈ keywords → Within n k → Within n (.call target args keywords)
  | part {construct : Construct} {p : Expr} {parts : List Expr} :
      p ∈ parts → Within n p → Within n (.foreign construct parts)

/-- The whitelist: numbers, the named constants, the two signs, the seven operators, and calls of
the calculator's functions with plain positional arguments. -/
inductive Admitted : Expr → Prop
  | int (n : Nat) : Admitted (.literal (.int n))
  | float (x : Float) : Admitted (.literal (.float x))
  | constant {id : Text} : id ∈ constants.map (fun entry => entry.1.toList) → Admitted (.name id)
  | unary (op : UnaryOp) (operand : Expr) : Admitted (.unary op operand)
  | binary (op : BinaryOp) (left right : Expr) : Admitted (.binary op left right)
  | call (f : Function) {args : List Expr} :
      (∀ a ∈ args, a.isStarred = false) → Admitted (.call (.name f.name.toList) args [])

/-! ## Values and the whitelist -/

variable {limit : Int} {e n : Expr} {x : Float}

/-- A name that has a value as a constant stands in the table of constants. -/
theorem mem_constants_of_constant? {id : Text} (h : constant? id = some x) :
    id ∈ constants.map fun entry => entry.1.toList := by
  rw [constant?, Option.map_eq_some_iff] at h
  obtain ⟨entry, found, -⟩ := h
  have hid : (entry.1.toList == id) = true :=
    List.find?_some (p := fun entry : String × Float => entry.1.toList == id) found
  exact List.mem_map.mpr ⟨entry, List.mem_of_find?_eq_some found, beq_iff_eq.mp hid⟩

/-- The function that a name stands for has that name. -/
theorem name_of_ofName? {id : Text} {f : Function} (h : Function.ofName? id = some f) :
    f.name.toList = id := by
  have hid : (f.name.toList == id) = true :=
    List.find?_some (p := fun f : Function => f.name.toList == id) h
  exact beq_iff_eq.mp hid

/-- A node with a value is itself on the whitelist. -/
theorem admitted_of_eval_ok (h : e.eval limit = .ok x) : Admitted e := by
  cases e with
  | literal value =>
    rcases eval_literal_ok h with ⟨n, rfl⟩ | ⟨y, rfl⟩
    · exact .int n
    · exact .float y
  | name id => exact .constant (mem_constants_of_constant? (eval_name_ok h))
  | unary op operand => exact .unary op operand
  | binary op left right => exact .binary op left right
  | call target args keywords =>
    obtain ⟨id, f, _, rfl, found, rfl, hplain, -, -⟩ := eval_call_ok h
    rw [← name_of_ofName? found]
    exact .call f hplain
  | foreign construct parts =>
    rw [eval_foreign] at h
    cases h

/-- No part of an expression is skipped on the way to its value: every node has a value too. -/
theorem eval_ok_of_within (hn : Within n e) (h : e.eval limit = .ok x) :
    ∃ y, n.eval limit = .ok y := by
  induction hn generalizing x with
  | here => exact ⟨x, h⟩
  | operand _ ih =>
    obtain ⟨y, hy, -⟩ := eval_unary_ok.mp h
    exact ih hy
  | left _ ih =>
    obtain ⟨a, b, ha, -, -⟩ := eval_binary_ok.mp h
    exact ih ha
  | right _ ih =>
    obtain ⟨a, b, -, hb, -⟩ := eval_binary_ok.mp h
    exact ih hb
  | target hname _ _ =>
    obtain ⟨id, _, _, hid, -⟩ := eval_call_ok h
    exact absurd hid (hname id)
  | argument ha _ ih =>
    obtain ⟨_, _, _, -, -, -, -, hargs, -⟩ := eval_call_ok h
    obtain ⟨y, hy⟩ := evalAll_ok hargs _ ha
    exact ih hy
  | keyword hk _ _ =>
    obtain ⟨_, _, _, -, -, rfl, -⟩ := eval_call_ok h
    exact absurd hk List.not_mem_nil
  | part _ _ _ =>
    rw [eval_foreign] at h
    cases h

/-- **Whitelist soundness.** When an expression has a value, every node of it is on the whitelist
and has a value of its own; put the other way round, one node off the whitelist, at any depth and in
any position, makes the whole evaluation fail. -/
theorem eval_whitelisted (limit : Int) (e : Expr) :
    (∀ x, e.eval limit = .ok x → ∀ n, Within n e → Admitted n ∧ ∃ y, n.eval limit = .ok y) ∧
      ((∃ n, Within n e ∧ ¬ Admitted n) → ∃ error, e.eval limit = .error error) := by
  have sound : ∀ x, e.eval limit = .ok x →
      ∀ n, Within n e → Admitted n ∧ ∃ y, n.eval limit = .ok y := by
    intro x h n hn
    obtain ⟨y, hy⟩ := eval_ok_of_within hn h
    exact ⟨admitted_of_eval_ok hy, y, hy⟩
  refine ⟨sound, ?_⟩
  rintro ⟨n, hn, hoff⟩
  cases h : e.eval limit with
  | error error => exact ⟨error, rfl⟩
  | ok x => exact absurd (sound x h n hn).1 hoff

/-- `max(-1.5, pi)` has a value, so its constant is on the whitelist; `sqrt(-[2.0])` holds a list
below a sign, so it fails. -/
theorem eval_whitelisted_max_sqrt :
    (∃ y, (name "pi".toList).eval 1000 = .ok y) ∧
      ∃ error, (call (name "sqrt".toList)
        [unary .minus (foreign .list [literal (.float 2.0)])] []).eval 1000 = .error error := by
  refine ⟨?_, ?_⟩
  · refine ((eval_whitelisted 1000 (call (name "max".toList)
      [unary .minus (literal (.float 1.5)), name "pi".toList] [])).1 _ rfl _ ?_).2
    exact .argument (List.mem_cons_of_mem _ (List.mem_cons_self ..)) .here
  · refine (eval_whitelisted 1000 _).2 ⟨foreign .list [literal (.float 2.0)], ?_, nofun⟩
    exact .argument (List.mem_cons_self ..) (.operand .here)

end Formulary.Expr
