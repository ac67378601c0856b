/-
Formulary.Proofs.CheckOrder — the first check that fails decides the error.

Whoever reads an error wants to know which part of a formula it is about. The checks of an
expression stand in an order that can be read off the tree: a construct outside of the calculator
fails before its parts are looked at; a call looks at its target, then at the form of its arguments,
then goes through the arguments, and last applies the function; an operator goes through its
operands and then is applied itself. The evaluation fails exactly if some check of this list fails,
and its error is that of the first one.

What stands behind that check has no say. A place in a tree is a path of frames, and `checksBefore`
lists the checks that are made before the evaluation comes to the place. When the check that fails
is one of these, any other expression in the place gives the same error. Only a spread argument is
different: it is looked at together with the form of the call, before all arguments.
-/
import Formulary.Proofs.Evaluating

namespace Formulary

/-- The error of an outcome that is one. -/
def failureOf {ε α : Type} : Except ε α → Option ε
  | .error error => some error
  | .ok _ => none

namespace Expr

/-! ## Checks -/

/-- What an evaluation checks. -/
inductive Check
  /-- A literal is a number that a double can hold. -/
  | literal (value : Literal)
  /-- A name is that of a constant. -/
  | constant (id : Text)
  /-- A construct outside of the calculator is never accepted. -/
  | construct (kind : Construct)
  /-- A name that is called is that of a function. -/
  | function (id : Text)
  /-- Something else than a name is called, which is never accepted. -/
  | computed (label : String)
  /-- A call has neither spread arguments nor keywords. -/
  | positional (starred named : Bool)
  /-- An operator accepts the values of its operands. -/
  | operation (op : BinaryOp) (left right : Expr)
  /-- A function accepts the values of its arguments. -/
  | application (target : Expr) (args : List Expr)

/-- The error of a check that fails. The last two kinds fail on values only: whether there are any
is up to the checks before. -/
def Check.failure? (limit : Int) : Check → Option EvalError
  | .literal value => failureOf value.number
  | .constant id => if (constant? id).isSome then none else some (.unknownName id)
  | .construct kind => some (.unsupportedConstruct kind.label)
  | .function id => if (Function.ofName? id).isSome then none else some (.unknownFunction id)
  | .computed label => some (.unknownFunction label.toList)
  | .positional starred named => if starred || named then some .notPositional else none
  | .operation op left right =>
    match left.eval limit, right.eval limit with
    | .ok a, .ok b => failureOf (op.apply limit a b)
    | _, _ => none
  | .application target args =>
    match target.calledFunction, evalAll limit args with
    | .ok f, .ok values => (failureOf (f.apply values)).map .function
    | _, _ => none

/-- The check of an expression that is called. -/
def targetCheck : Expr → Check
  | .name id => .function id
  | other => .computed other.label

mutual

/-- The checks of an expression, in the order in which they are made. -/
def checks : Expr → List Check
  | .literal value => [.literal value]
  | .name id => [.constant id]
  | .unary _ operand => operand.checks
  | .binary op left right => left.checks ++ right.checks ++ [.operation op left right]
  | .call target args keywords =>
    target.targetCheck :: .positional (args.any isStarred) (!keywords.isEmpty) ::
      (allChecks args ++ [.application target args])
  | .foreign construct parts => .construct construct :: allChecks parts

/-- The checks of expressions, from left to right. -/
def allChecks : List Expr → List Check
  | [] => []
  | e :: rest => e.checks ++ allChecks rest

end

/-- The check fails with the error, and it is the first of the expression's checks to fail. -/
structure FailsFirst (limit : Int) (e : Expr) (before : List Check) (check : Check)
    (error : EvalError) : Prop where
  /-- These are the first checks of the expression. -/
  order : before ++ [check] <+: e.checks
  /-- The checks before pass. -/
  passed : ∀ c ∈ before, c.failure? limit = none
  /-- The check fails. -/
  failed : check.failure? limit = some error

variable {limit : Int} {e other : Expr} {error : EvalError} {before : List Check} {check : Check}

theorem allChecks_append (xs ys : List Expr) :
    allChecks (xs ++ ys) = allChecks xs ++ allChecks ys := by
  induction xs with
  | nil => rfl
  | cons e rest ih => simp only [List.cons_append, allChecks, ih, List.append_assoc]

/-! ## The first check that fails -/

theorem failure?_targetCheck (target : Expr) :
    target.targetCheck.failure? limit = failureOf target.calledFunction := by
  cases target with
  | name id =>
    simp only [targetCheck, Check.failure?, calledFunction]
    cases Function.ofName? id <;> rfl
  | literal | unary | binary | call | foreign => rfl

mutual

/-- **The error of an evaluation is that of the first check that fails.** -/
theorem findSome?_checks (limit : Int) :
    ∀ e : Expr, e.checks.findSome? (Check.failure? limit) = failureOf (e.eval limit)
  | .literal value => by
    simp only [checks, eval, List.findSome?_singleton, Check.failure?]
  | .name id => by
    simp only [checks, eval, List.findSome?_singleton, Check.failure?]
    cases constant? id <;> rfl
  | .unary op operand => by
    rw [checks, eval, findSome?_checks limit operand]
    cases operand.eval limit <;> rfl
  | .binary op left right => by
    rw [checks, eval, List.findSome?_append, List.findSome?_append, findSome?_checks limit left,
      findSome?_checks limit right, List.findSome?_singleton, Check.failure?]
    cases left.eval limit with
    | error error => rfl
    | ok a => cases right.eval limit <;> rfl
  | .call target args keywords => by
    rw [checks, eval, List.findSome?_cons, List.findSome?_cons, List.findSome?_append,
      findSome?_allChecks limit args, failure?_targetCheck, List.findSome?_singleton]
    simp only [Check.failure?, Bool.or_comm (args.any isStarred)]
    cases target.calledFunction with
    | error error => rfl
    | ok f =>
      simp only [failureOf, bind, Except.bind]
      cases !keywords.isEmpty || args.any isStarred with
      | true => rfl
      | false =>
        cases evalAll limit args with
        | error error => rfl
        | ok values =>
          simp only [Bool.false_eq_true, if_false]
          cases f.apply values <;> rfl
  | .foreign construct parts => by
    rw [checks, eval_foreign, List.findSome?_cons]
    rfl

theorem findSome?_allChecks (limit : Int) :
    ∀ es : List Expr, (allChecks es).findSome? (Check.failure? limit) = failureOf (evalAll limit es)
  | [] => rfl
  | e :: rest => by
    rw [allChecks, evalAll, List.findSome?_append, findSome?_checks limit e,
      findSome?_allChecks limit rest]
    cases e.eval limit with
    | error error => rfl
    | ok x => cases evalAll limit rest <;> rfl

end

theorem eval_eq_error_iff :
    e.eval limit = .error error ↔ e.checks.findSome? (Check.failure? limit) = some error := by
  rw [findSome?_checks]
  cases e.eval limit <;> simp [failureOf]

/-- An evaluation fails exactly if there is a first check that fails, and with its error. -/
theorem eval_eq_error_iff_failsFirst :
    e.eval limit = .error error ↔ ∃ before check, FailsFirst limit e before check error := by
  rw [eval_eq_error_iff, List.findSome?_eq_some_iff]
  constructor
  · rintro ⟨before, check, after, hchecks, hfailed, hpassed⟩
    rw [List.append_cons] at hchecks
    exact ⟨before, check, ⟨after, hchecks.symm⟩, hpassed, hfailed⟩
  · rintro ⟨before, check, ⟨after, hchecks⟩, hpassed, hfailed⟩
    rw [← List.append_cons] at hchecks
    exact ⟨before, check, after, hchecks.symm, hfailed, hpassed⟩

/-! ## Places in a tree -/

/-- A node around a place: its kind, and what stands in it on either side of the place. -/
inductive Frame
  | operand (op : UnaryOp)
  | left (op : BinaryOp) (right : Expr)
  | right (op : BinaryOp) (left : Expr)
  | target (args keywords : List Expr)
  | argument (target : Expr) (before after keywords : List Expr)
  | keyword (target : Expr) (args before after : List Expr)
  | part (construct : Construct) (before after : List Expr)

namespace Frame

/-- The node with an expression in the place. -/
def plug : Frame → Expr → Expr
  | .operand op, e => .unary op e
  | .left op second, e => .binary op e second
  | .right op first, e => .binary op first e
  | .target args keywords, e => .call e args keywords
  | .argument callee before after keywords, e => .call callee (before ++ e :: after) keywords
  | .keyword callee args before after, e => .call callee args (before ++ e :: after)
  | .part construct before after, e => .foreign construct (before ++ e :: after)

/-- The name by which diagnostics call the kind of the node. -/
def label : Frame → String
  | .operand _ => "UnaryOp"
  | .left .. | .right .. => "BinOp"
  | .target .. | .argument .. | .keyword .. => "Call"
  | .part construct .. => construct.label

/-- Whether the node is a spread argument. -/
def isStarred : Frame → Bool
  | .part .starred .. => true
  | _ => false

theorem isStarred_plug (frame : Frame) (e : Expr) :
    (frame.plug e).isStarred = frame.isStarred := by
  cases frame with
  | part construct => cases construct <;> rfl
  | operand | left | right | target | argument | keyword => rfl

/-- A node that holds a place is no name. -/
theorem targetCheck_plug (frame : Frame) (e : Expr) :
    (frame.plug e).targetCheck = .computed frame.label := by
  cases frame <;> rfl

end Frame

/-- A place in a tree: the nodes around it, from the root down. -/
abbrev Place :=
  List Frame

namespace Place

/-- The tree with an expression in the place. -/
def plug (place : Place) (e : Expr) : Expr :=
  place.foldr Frame.plug e

theorem plug_cons (frame : Frame) (rest : Place) (e : Expr) :
    plug (frame :: rest) e = frame.plug (plug rest e) :=
  rfl

/-- Whether what stands at the beginning of the path is a spread argument, given that the place
itself holds none. -/
def isStarred : Place → Bool
  | [] => false
  | frame :: _ => frame.isStarred

/-- The checks that are made before the evaluation comes to the place. In the target of a call and
in a keyword it never does: there a check fails before. -/
def checksBefore : Place → List Check
  | [] => []
  | .operand _ :: rest => checksBefore rest
  | .left _ _ :: rest => checksBefore rest
  | .right _ left :: rest => left.checks ++ checksBefore rest
  | [.target _ _] => []
  | .target _ _ :: frame :: _ => [.computed frame.label]
  | .argument target before after keywords :: rest =>
    target.targetCheck ::
      .positional (before.any Expr.isStarred || (isStarred rest || after.any Expr.isStarred))
        (!keywords.isEmpty) :: (allChecks before ++ checksBefore rest)
  | .keyword target args _ _ :: _ =>
    [target.targetCheck, .positional (args.any Expr.isStarred) true]
  | .part construct before _ :: rest =>
    .construct construct :: (allChecks before ++ checksBefore rest)

/-- Whether the place is an operand, an argument or a part all the way down, so that its checks are
among those of the tree. -/
def IsListed (place : Place) : Prop :=
  ∀ frame ∈ place, match frame with
    | .target .. | .keyword .. => False
    | _ => True

variable {place rest : Place} {frame : Frame}

theorem isStarred_plug (h : e.isStarred = false) : (plug place e).isStarred = place.isStarred := by
  cases place with
  | nil => exact h
  | cons frame rest => exact frame.isStarred_plug (plug rest e)

theorem IsListed.tail (h : IsListed (frame :: rest)) : IsListed rest :=
  fun f hf => h f (List.mem_cons_of_mem _ hf)

/-- The checks of a tree begin with those before a place, and then come to the place. -/
theorem exists_checks_plug (place : Place) (h : e.isStarred = false) :
    ∃ after, (plug place e).checks = checksBefore place ++ after ∧
      (IsListed place → e.checks <+: after) := by
  induction place with
  | nil => exact ⟨e.checks, rfl, fun _ => List.prefix_rfl⟩
  | cons frame rest ih =>
    obtain ⟨after, hchecks, hlisted⟩ := ih
    have hstarred : (plug rest e).isStarred = isStarred rest := isStarred_plug h
    have hfurther : ∀ more, IsListed (frame :: rest) → e.checks <+: after ++ more :=
      fun more hall => (hlisted hall.tail).trans (List.prefix_append after more)
    rw [plug_cons]
    cases frame with
    | operand op => exact ⟨after, hchecks, fun hall => hlisted hall.tail⟩
    | left op right =>
      refine ⟨after ++ (right.checks ++ [.operation op (plug rest e) right]), ?_, hfurther _⟩
      simp only [Frame.plug, checks, checksBefore, hchecks, List.append_assoc]
    | right op left =>
      refine ⟨after ++ [.operation op left (plug rest e)], ?_, hfurther _⟩
      simp only [Frame.plug, checks, checksBefore, hchecks, List.append_assoc]
    | target args keywords =>
      have hnever : ¬IsListed (.target args keywords :: rest) :=
        fun hall => hall _ List.mem_cons_self
      cases rest with
      | nil => exact ⟨_, rfl, fun hall => absurd hall hnever⟩
      | cons inner rest =>
        refine ⟨((Frame.target args keywords).plug (plug (inner :: rest) e)).checks.tail, ?_,
          fun hall => absurd hall hnever⟩
        rw [Frame.plug, checks, plug_cons, Frame.targetCheck_plug]
        rfl
    | argument target before behind keywords =>
      refine ⟨after ++
        (allChecks behind ++ [.application target (before ++ plug rest e :: behind)]), ?_,
        hfurther _⟩
      simp only [Frame.plug, checks, checksBefore, allChecks_append, allChecks, hchecks,
        List.any_append, List.any_cons, hstarred, List.append_assoc, List.cons_append]
    | keyword target args before behind =>
      have hnamed : (!(before ++ plug rest e :: behind).isEmpty) = true := by simp
      have hnever : ¬IsListed (.keyword target args before behind :: rest) :=
        fun hall => hall _ List.mem_cons_self
      refine ⟨allChecks args ++ [.application target args], ?_, fun hall => absurd hall hnever⟩
      rw [Frame.plug, checks, hnamed]
      rfl
    | part construct before behind =>
      refine ⟨after ++ allChecks behind, ?_, hfurther _⟩
      simp only [Frame.plug, checks, checksBefore, allChecks_append, allChecks, hchecks,
        List.append_assoc, List.cons_append]

end Place

/-! ## What stands behind has no say -/

/-- **The first check that fails decides the error.** An evaluation fails exactly if there is a
first check that fails, and with the error of that check. The checks of a subtree stand behind those
that are made before its place. When the check that fails is one of these, then any other expression
in the place, spread arguments apart, leaves it the first check that fails, and the error is the
same. -/
theorem eval_first_failure (limit : Int) :
    (∀ e error, e.eval limit = .error error ↔
      ∃ before check, FailsFirst limit e before check error) ∧
    (∀ (place : Place) (e : Expr), place.IsListed → e.isStarred = false →
      place.checksBefore ++ e.checks <+: (place.plug e).checks) ∧
    ∀ (place : Place) (e : Expr) (before : List Check) (check : Check) (error : EvalError),
      FailsFirst limit (place.plug e) before check error →
      before ++ [check] <+: place.checksBefore →
      ∀ other : Expr, other.isStarred = false →
        FailsFirst limit (place.plug other) before check error ∧
          (place.plug other).eval limit = .error error := by
  refine ⟨fun e error => eval_eq_error_iff_failsFirst, ?_, ?_⟩
  · intro place e hlisted he
    obtain ⟨after, hchecks, hfurther⟩ := place.exists_checks_plug he
    rw [hchecks, List.prefix_append_right_inj]
    exact hfurther hlisted
  · intro place e before check error hfirst hbefore other hother
    obtain ⟨after, hchecks, -⟩ := place.exists_checks_plug hother
    have hsame : FailsFirst limit (place.plug other) before check error :=
      ⟨hbefore.trans ⟨after, hchecks.symm⟩, hfirst.passed, hfirst.failed⟩
    exact ⟨hsame, eval_eq_error_iff_failsFirst.mpr ⟨before, check, hsame⟩⟩

/-- In `max(2 ^ 2000, …) + []` the exponent is reported, whether the second argument is an unknown
name or a number. -/
theorem eval_first_failure_max :
    let power := binary .power (literal (.float 2.0)) (literal (.float 2000.0))
    let place : Place :=
      [.left .add (foreign .list []), .argument (name "max".toList) [power] [] []]
    (place.plug (name "x".toList)).eval 1000 = .error (.exponentTooLarge 2000.0 1000) ∧
      (place.plug (literal (.float 1.0))).eval 1000 = .error (.exponentTooLarge 2000.0 1000) := by
  intro power place
  let before : List Check :=
    [.function "max".toList, .positional false false, .literal (.float 2.0),
      .literal (.float 2000.0)]
  let check : Check := .operation .power (literal (.float 2.0)) (literal (.float 2000.0))
  have hpassed : ∀ c ∈ before, c.failure? 1000 = none := by
    intro c hc
    simp only [before, List.mem_cons, List.not_mem_nil, or_false] at hc
    rcases hc with rfl | rfl | rfl | rfl <;> rfl
  have hlarge : exceedsExponent 1000 2000.0 = true := by decide +kernel
  have hfailed : check.failure? 1000 = some (.exponentTooLarge 2000.0 1000) := by
    change failureOf (BinaryOp.power.apply 1000 2.0 2000.0) = _
    rw [BinaryOp.apply, if_pos hlarge]
    rfl
  obtain ⟨hfails, -, hreplace⟩ := eval_first_failure 1000
  have hfirst : FailsFirst 1000 (place.plug (name "x".toList)) before check
      (.exponentTooLarge 2000.0 1000) :=
    ⟨⟨_, rfl⟩, hpassed, hfailed⟩
  refine ⟨(hfails _ _).mpr ⟨before, check, hfirst⟩, ?_⟩
  exact (hreplace place _ before check _ hfirst List.prefix_rfl _ rfl).2

end Expr

end Formulary
