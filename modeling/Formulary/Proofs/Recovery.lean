/-
Formulary.Proofs.Recovery — what escapes from an evaluation that recovers from failures.

An evaluation guards two steps, substituting and evaluating: whatever a filter or the evaluator
raises there ends up in the record. The recovery works outside of that guard. It makes a line of the
failure, it shows the formula, it searches for the placeholders that are left, and it builds the
record. A failure need not have a text, a value need not be one that can be shown, and a search,
like the record, is made for texts. So a failure can come out of the recovery itself.

Here the evaluation is spelled out in these steps, for formulas of any kind, with each step failing
where it can (`evaluateInSteps`). For a text only the first step behind the guard can fail, and only
for a failure that a filter has raised: the evaluator's failures have a text. Anything else fails in
the guarded steps, is sent to the recovery, and fails there once more, in the search at the latest,
since what is searched is then the formula itself. The record is never refused: nothing but a text
gets as far as that.
-/
import Formulary.Proofs.Diagnostics

namespace Formulary

/-! ## The steps behind the guard -/

/-- What a step outside of the guard raises: a failure, or that a record has something other than
texts in it. -/
inductive Escape
  | failed (failure : Failure)
  | invalidRecord

/-- Whether a value counts as nothing. -/
def Value.isNothing : Value → Bool
  | .null => true
  | .bool b => !b
  | .int n => n == 0
  | .float x => x == 0
  | .text t => t.isEmpty
  | .list items => items.isEmpty
  | .record fields => fields.isEmpty

/-- The first value, unless it is missing or counts as nothing; otherwise the second. -/
def Value.firstOr (first : Option Value) (second : Value) : Value :=
  match first with
  | some value => if value.isNothing then second else value
  | none => second

/-- The placeholders in a value, which has to be a text. -/
def Placeholder.searched : Value → Except Escape (List Text)
  | .text text => pure (unresolved text)
  | other => throw (.failed (.notText other.kind))

/-- A text for a record. -/
def Evaluation.textField : Value → Except Escape Text
  | .text text => pure text
  | _ => throw .invalidRecord

/-- The record with these fields, if formula and substituted formula are texts. -/
def Evaluation.checked (formula : Value) (substituted : Option Value) (result : Option Float)
    (error : Option Text) (unresolved : List Text) : Except Escape Evaluation := do
  let formula ← textField formula
  match substituted with
  | none => pure ⟨formula, none, result, error, unresolved⟩
  | some value =>
    let substituted ← textField value
    pure ⟨formula, some substituted, result, error, unresolved⟩

namespace Rack

/-! ## The guarded steps -/

/-- Apply selected filters to a formula of any kind. What is no text stays what it is, unless a
filter fails. -/
def applyAllAny (rack : Rack) (selections : List Selection) : Value → Except Failure Value
  | .text text => (rack.applyAll selections text).result.map .text
  | other => (rack.applyAllForeign selections other).result.map fun _ => other

/-- What the guarded steps come to: the substituted formula, if they got as far as that, and the
number or the failure at which they end. -/
def guarded (limits : Limits) (rack : Rack) (selections : List Selection) (formula : Value) :
    Option Value × Except Failure Float :=
  match rack.applyAllAny selections formula with
  | .error failure => (none, .error failure)
  | .ok substituted => (some substituted, (evaluateAny limits substituted).mapError .rejected)

/-- The steps of the recovery from a failure: its line, what the warning shows, the search, and the
record. -/
def recoverInSteps (formula : Value) (substituted : Option Value) (failure : Failure) :
    Except Escape Evaluation := do
  let summary ← failure.summary.mapError .failed
  let _ ← (Value.firstOr substituted formula).display.mapError .failed
  let unresolved ← Placeholder.searched (Value.firstOr substituted formula)
  Evaluation.checked formula substituted none (some summary) unresolved

/-- Evaluate step by step. A failure of the guarded steps leads to the recovery, and what fails
there escapes. -/
def evaluateInSteps (limits : Limits) (rack : Rack) (arguments : List Selection)
    (formula : Value) : Except Escape Evaluation :=
  let (substituted, outcome) := rack.guarded limits (Selection.flatten arguments) formula
  match outcome with
  | .ok x => Evaluation.checked formula substituted (some x) none []
  | .error failure => recoverInSteps formula substituted failure

variable {limits : Limits} {rack : Rack} {arguments selections : List Selection} {formula : Value}
  {substituted : Option Value} {failure : Failure} {text new : Text} {x : Float}

/-- A number goes into the record. -/
theorem evaluateInSteps_of_ok
    (h : rack.guarded limits (Selection.flatten arguments) formula = (substituted, .ok x)) :
    rack.evaluateInSteps limits arguments formula
      = Evaluation.checked formula substituted (some x) none [] := by
  rw [evaluateInSteps, h]

/-- A failure leads to the recovery. -/
theorem evaluateInSteps_of_error
    (h : rack.guarded limits (Selection.flatten arguments) formula
      = (substituted, .error failure)) :
    rack.evaluateInSteps limits arguments formula
      = recoverInSteps formula substituted failure := by
  rw [evaluateInSteps, h]

/-! ## Texts -/

theorem guarded_text_of_error (h : (rack.applyAll selections text).result = .error failure) :
    rack.guarded limits selections (.text text) = (none, .error failure) := by
  rw [guarded, applyAllAny, h]
  rfl

theorem guarded_text_of_ok (h : (rack.applyAll selections text).result = .ok new) :
    rack.guarded limits selections (.text text)
      = (some (.text new), (Formulary.evaluate limits new).mapError .rejected) := by
  rw [guarded, applyAllAny, h]
  rfl

/-- Behind the guard, the placeholders of a substituted text are looked for where `diagnosed` says:
an empty one counts as none. -/
theorem firstOr_substituted (formula new : Text) :
    Value.firstOr (some (.text new)) (.text formula) = .text (diagnosed formula (some new)) := by
  rw [diagnosed, Value.firstOr, Value.isNothing]
  cases new.isEmpty <;> rfl

/-- For a text, the steps come to the result of the evaluation. -/
theorem evaluateInSteps_text (limits : Limits) (rack : Rack) (arguments : List Selection)
    (formula : Text) :
    rack.evaluateInSteps limits arguments (.text formula)
      = (rack.evaluate limits arguments formula).result.mapError .failed := by
  cases hrun : (rack.applyAll (Selection.flatten arguments) formula).result with
  | error failure =>
    rw [evaluateInSteps_of_error (guarded_text_of_error hrun), evaluate_of_raised hrun,
      recoverInSteps]
    cases failure.summary <;> rfl
  | ok text =>
    have hguarded := @guarded_text_of_ok limits _ _ _ _ hrun
    cases hvalue : Formulary.evaluate limits text with
    | ok x =>
      rw [hvalue] at hguarded
      rw [evaluateInSteps_of_ok hguarded, evaluate_of_ok hrun hvalue]
      rfl
    | error rejection =>
      rw [hvalue] at hguarded
      rw [evaluateInSteps_of_error hguarded, evaluate_of_rejected hrun hvalue, recoverInSteps,
        firstOr_substituted]
      rfl

/-! ## Anything else -/

/-- What a value that is no text leads to behind the guard: it is shown, and then searched. -/
def searchedForeign (formula : Value) : Except Failure Evaluation :=
  formula.display.bind fun _ => .error (.notText formula.kind)

/-- The failure at which the guarded steps end for a value that is no text. -/
def foreignFailure (rack : Rack) (selections : List Selection) (formula : Value) : Failure :=
  match rack.applyAllAny selections formula with
  | .error failure => failure
  | .ok _ => .rejected (.failed (.notText formula.kind))

theorem applyAllAny_foreign (hforeign : ∀ text, formula ≠ .text text) :
    rack.applyAllAny selections formula
      = (rack.applyAllForeign selections formula).result.map fun _ => formula := by
  rw [applyAllAny]
  exact hforeign

/-- What is no text fails within the guard, and it is still the formula that is searched then. -/
theorem guarded_foreign (limits : Limits) (rack : Rack) (selections : List Selection)
    (hforeign : ∀ text, formula ≠ .text text) :
    ∃ substituted, rack.guarded limits selections formula
        = (substituted, .error (rack.foreignFailure selections formula)) ∧
      Value.firstOr substituted formula = formula := by
  have hvalue : evaluateAny limits formula = .error (.failed (.notText formula.kind)) := by
    rw [evaluateAny]
    · rfl
    · exact hforeign
  rw [guarded, foreignFailure, applyAllAny_foreign hforeign]
  cases (rack.applyAllForeign selections formula).result with
  | error failure => exact ⟨none, rfl, rfl⟩
  | ok =>
    refine ⟨some formula, ?_, ite_self formula⟩
    change (some formula, (evaluateAny limits formula).mapError Failure.rejected) = _
    rw [hvalue]
    rfl

/-- What is no text makes the recovery fail, in its search at the latest. -/
theorem evaluateInSteps_foreign (limits : Limits) (rack : Rack) (arguments : List Selection)
    (hforeign : ∀ text, formula ≠ .text text) :
    rack.evaluateInSteps limits arguments formula
      = ((rack.foreignFailure (Selection.flatten arguments) formula).text.bind fun _ =>
          searchedForeign formula).mapError .failed := by
  obtain ⟨substituted, hguarded, hsearched⟩ :=
    guarded_foreign limits rack (Selection.flatten arguments) hforeign
  have hfailed : Placeholder.searched formula = .error (.failed (.notText formula.kind)) := by
    rw [Placeholder.searched]
    · rfl
    · exact hforeign
  rw [evaluateInSteps_of_error hguarded, recoverInSteps, hsearched, hfailed, searchedForeign,
    Failure.summary]
  cases (rack.foreignFailure (Selection.flatten arguments) formula).text with
  | error escaped => rfl
  | ok message => cases formula.display <;> rfl

theorem evaluateValue_foreign (limits : Limits) (rack : Rack) (arguments : List Selection)
    (hforeign : ∀ text, formula ≠ .text text) :
    (rack.evaluateValue limits arguments formula).result
      = (rack.foreignFailure (Selection.flatten arguments) formula).text.bind fun _ =>
          searchedForeign formula := by
  rw [evaluateValue]
  · rw [result_recovered, Failure.summary, foreignFailure, applyAllAny_foreign hforeign,
      searchedForeign]
    cases (rack.applyAllForeign (Selection.flatten arguments) formula).result with
    | error failure =>
      simp only [Except.map]
      cases failure.text <;> rfl
    | ok => rfl
  · exact hforeign

/-! ## What escapes -/

/-- The steps come to the result of the evaluation, for formulas of any kind. -/
theorem evaluateInSteps_eq (limits : Limits) (rack : Rack) (arguments : List Selection)
    (formula : Value) :
    rack.evaluateInSteps limits arguments formula
      = (rack.evaluateValue limits arguments formula).result.mapError .failed := by
  by_cases h : ∃ text, formula = .text text
  · obtain ⟨text, rfl⟩ := h
    exact evaluateInSteps_text limits rack arguments text
  · have hforeign : ∀ text, formula ≠ .text text := not_exists.mp h
    rw [evaluateInSteps_foreign limits rack arguments hforeign,
      evaluateValue_foreign limits rack arguments hforeign]

theorem evaluateInSteps_eq_ok_iff {e : Evaluation} :
    rack.evaluateInSteps limits arguments formula = .ok e ↔
      (rack.evaluateValue limits arguments formula).result = .ok e := by
  rw [evaluateInSteps_eq]
  cases (rack.evaluateValue limits arguments formula).result with
  | error raised => constructor <;> intro h <;> cases h
  | ok e => constructor <;> intro h <;> cases h <;> rfl

theorem evaluateInSteps_eq_failed_iff {escaped : Failure} :
    rack.evaluateInSteps limits arguments formula = .error (.failed escaped) ↔
      (rack.evaluateValue limits arguments formula).result = .error escaped := by
  rw [evaluateInSteps_eq]
  cases (rack.evaluateValue limits arguments formula).result with
  | error raised => constructor <;> intro h <;> cases h <;> rfl
  | ok e => constructor <;> intro h <;> cases h

/-- The filters do not fail, or fail with something that has a text. -/
def FailsWithText (rack : Rack) (selections : List Selection) (formula : Value) : Prop :=
  ∀ failure, rack.applyAllAny selections formula = .error failure →
    ∃ message, failure.text = .ok message

/-- What comes out of the recovery: what is raised in the place of the text of a filter's failure;
if all is well with that, the failure to show the formula; and if the formula can be shown, but is
no text, the failure to search it. -/
inductive Escapes (rack : Rack) (selections : List Selection) (formula : Value) : Failure → Prop
  | textless {failure escaped : Failure} :
      rack.applyAllAny selections formula = .error failure → failure.text = .error escaped →
      Escapes rack selections formula escaped
  | unshown {escaped : Failure} :
      FailsWithText rack selections formula → formula.display = .error escaped →
      Escapes rack selections formula escaped
  | unsearchable {shown : Text} :
      FailsWithText rack selections formula → formula.display = .ok shown →
      (∀ text, formula ≠ .text text) → Escapes rack selections formula (.notText formula.kind)

variable {escaped : Failure}

/-- What is raised in the place of a text comes out, and nothing else. -/
theorem escapes_of_textless (hfailure : rack.applyAllAny selections formula = .error failure)
    (htext : failure.text = .error escaped) (other : Failure) :
    Escapes rack selections formula other ↔ other = escaped := by
  have hnot : ¬ FailsWithText rack selections formula := by
    intro h
    obtain ⟨message, hmessage⟩ := h failure hfailure
    rw [htext] at hmessage
    cases hmessage
  constructor
  · intro h
    cases h with
    | textless hfailure' htext' =>
      obtain rfl := Except.error.inj (hfailure.symm.trans hfailure')
      exact Except.error.inj (htext'.symm.trans htext)
    | unshown hwith => exact absurd hwith hnot
    | unsearchable hwith => exact absurd hwith hnot
  · rintro rfl
    exact .textless hfailure htext

/-- If the filters' failure has a text, the formula alone decides what comes out. -/
theorem escapes_of_failsWithText (hwith : FailsWithText rack selections formula)
    (other : Failure) :
    Escapes rack selections formula other ↔
      (∀ text, formula ≠ .text text) ∧ searchedForeign formula = .error other := by
  rw [searchedForeign]
  constructor
  · intro h
    cases h with
    | textless hfailure htext =>
      obtain ⟨message, hmessage⟩ := hwith _ hfailure
      rw [hmessage] at htext
      cases htext
    | unshown _ hshown =>
      refine ⟨?_, by rw [hshown]; rfl⟩
      rintro text rfl
      cases hshown
    | unsearchable _ hshown hforeign => exact ⟨hforeign, by rw [hshown]; rfl⟩
  · rintro ⟨hforeign, hsearched⟩
    cases hshown : formula.display with
    | error escaped =>
      rw [hshown] at hsearched
      cases hsearched
      exact .unshown hwith hshown
    | ok shown =>
      rw [hshown] at hsearched
      cases hsearched
      exact .unsearchable hwith hshown hforeign

theorem failsWithText_of_ok {value : Value}
    (h : rack.applyAllAny selections formula = .ok value) :
    FailsWithText rack selections formula := by
  intro failure hfailure
  rw [h] at hfailure
  cases hfailure

theorem failsWithText_of_text {message : Text}
    (h : rack.applyAllAny selections formula = .error failure)
    (htext : failure.text = .ok message) : FailsWithText rack selections formula := by
  intro other hother
  obtain rfl := Except.error.inj (h.symm.trans hother)
  exact ⟨message, htext⟩

/-- What comes out of a text is what is raised in the place of the text of a filter's failure. -/
theorem evaluate_eq_error_iff :
    (rack.evaluate limits arguments text).result = .error escaped ↔
      Escapes rack (Selection.flatten arguments) (.text text) escaped := by
  cases hrun : (rack.applyAll (Selection.flatten arguments) text).result with
  | error failure =>
    have hany : rack.applyAllAny (Selection.flatten arguments) (.text text) = .error failure := by
      rw [applyAllAny, hrun]
      rfl
    rw [evaluate_of_raised hrun, Failure.summary]
    cases htext : failure.text with
    | error raised =>
      rw [escapes_of_textless hany htext]
      simp [Except.map, eq_comm]
    | ok message =>
      rw [escapes_of_failsWithText (failsWithText_of_text hany htext)]
      simp [Except.map]
  | ok new =>
    have hany : rack.applyAllAny (Selection.flatten arguments) (.text text) = .ok (.text new) := by
      rw [applyAllAny, hrun]
      rfl
    rw [escapes_of_failsWithText (failsWithText_of_ok hany)]
    cases hvalue : Formulary.evaluate limits new with
    | ok x => simp [evaluate_of_ok hrun hvalue]
    | error rejection => simp [evaluate_of_rejected hrun hvalue]

/-- What comes out of anything else, where something always comes out. -/
theorem evaluateValue_foreign_eq_error_iff (limits : Limits)
    (hforeign : ∀ text, formula ≠ .text text) :
    (rack.evaluateValue limits arguments formula).result = .error escaped ↔
      Escapes rack (Selection.flatten arguments) formula escaped := by
  rw [evaluateValue_foreign limits rack arguments hforeign, foreignFailure]
  cases hany : rack.applyAllAny (Selection.flatten arguments) formula with
  | error failure =>
    cases htext : failure.text with
    | error raised =>
      rw [escapes_of_textless hany htext]
      simp [Except.bind, eq_comm]
    | ok message =>
      rw [escapes_of_failsWithText (failsWithText_of_text hany htext)]
      simp [Except.bind, hforeign]
  | ok value =>
    rw [escapes_of_failsWithText (failsWithText_of_ok hany)]
    simp [Failure.text, Except.bind, hforeign]

theorem evaluateValue_eq_error_iff (limits : Limits) (rack : Rack) (arguments : List Selection)
    (formula : Value) :
    (rack.evaluateValue limits arguments formula).result = .error escaped ↔
      Escapes rack (Selection.flatten arguments) formula escaped := by
  by_cases h : ∃ text, formula = .text text
  · obtain ⟨text, rfl⟩ := h
    exact evaluate_eq_error_iff
  · exact evaluateValue_foreign_eq_error_iff limits (not_exists.mp h)

/-- Nothing comes out of a text if the filters' failure has a text; something comes out of
everything else. -/
theorem not_escapes_iff (rack : Rack) (selections : List Selection) (formula : Value) :
    (∀ escaped, ¬ Escapes rack selections formula escaped) ↔
      ∃ text, formula = .text text ∧ FailsWithText rack selections formula := by
  constructor
  · intro hnone
    have hwith : FailsWithText rack selections formula := by
      intro failure hfailure
      cases htext : failure.text with
      | error raised => exact absurd (.textless hfailure htext) (hnone raised)
      | ok message => exact ⟨message, rfl⟩
    apply Classical.byContradiction
    intro hno
    -- What is no text gets as far as being shown, and then either that or the search fails.
    have hforeign : ∀ text, formula ≠ .text text := fun text htext => hno ⟨text, htext, hwith⟩
    cases hshown : formula.display with
    | error raised => exact hnone raised (.unshown hwith hshown)
    | ok shown => exact hnone _ (.unsearchable hwith hshown hforeign)
  · rintro ⟨text, rfl, hwith⟩ escaped hescapes
    exact ((escapes_of_failsWithText hwith escaped).mp hescapes).1 text rfl

/-- A formula that is a text gives the number that its substituted text has, and no number if a
filter or the evaluation fails. -/
theorem parse_text_eq_some_iff :
    (rack.parse limits arguments (.text text)).result = .ok (some x) ↔
      ∃ new, (rack.applyAll (Selection.flatten arguments) text).result = .ok new ∧
        Formulary.evaluate limits new = .ok x := by
  change (rack.evaluate limits arguments text).result.map Evaluation.result = _ ↔ _
  cases hrun : (rack.applyAll (Selection.flatten arguments) text).result with
  | error failure =>
    rw [evaluate_of_raised hrun]
    cases failure.summary <;> simp [Except.map, failedEvaluation]
  | ok new =>
    cases hvalue : Formulary.evaluate limits new with
    | ok y => simp [evaluate_of_ok hrun hvalue, Except.map, hvalue]
    | error rejection =>
      simp [evaluate_of_rejected hrun hvalue, Except.map, failedEvaluation, hvalue]

/-- **What escapes from a formula.** The result is the one that the steps come to. There is one, a
number or none, exactly for a text whose filters, if one of them fails, fail with something that has
a text; and a number exactly if the substituted text has it. In all other cases what escapes is what
is said to come out of the recovery: of a text, what is raised in the place of the text of a
filter's failure; of anything else, that or the failure to show or to search the formula. -/
theorem parse_escapes (limits : Limits) (rack : Rack) (arguments : List Selection)
    (formula : Value) :
    (∀ number, (rack.parse limits arguments formula).result = .ok number ↔
      ∃ e, rack.evaluateInSteps limits arguments formula = .ok e ∧ e.result = number) ∧
    (∀ escaped, (rack.parse limits arguments formula).result = .error escaped ↔
      rack.evaluateInSteps limits arguments formula = .error (.failed escaped)) ∧
    (∀ escaped, (rack.parse limits arguments formula).result = .error escaped ↔
      Escapes rack (Selection.flatten arguments) formula escaped) ∧
    ((∃ number, (rack.parse limits arguments formula).result = .ok number) ↔
      ∃ text, formula = .text text ∧
        FailsWithText rack (Selection.flatten arguments) formula) ∧
    ∀ text x, (rack.parse limits arguments (.text text)).result = .ok (some x) ↔
      ∃ new, (rack.applyAll (Selection.flatten arguments) text).result = .ok new ∧
        Formulary.evaluate limits new = .ok x := by
  have hparse : (rack.parse limits arguments formula).result
      = (rack.evaluateValue limits arguments formula).result.map Evaluation.result := rfl
  simp only [evaluateInSteps_eq_ok_iff, evaluateInSteps_eq_failed_iff, ← not_escapes_iff,
    ← evaluateValue_eq_error_iff limits, hparse]
  refine ⟨?_, ?_, ?_, ?_, fun _ _ => parse_text_eq_some_iff⟩
  all_goals cases (rack.evaluateValue limits arguments formula).result <;> simp [Except.map]

/-- Without any filters, an integer in the place of a formula is no number and is not passed over:
the failure of the search escapes. -/
theorem parse_integer_escapes :
    let limits : Limits := { maxLength := 10000, maxExponent := 1000 }
    (parse limits [] [] (.int 5)).result = .error (.notText "int") ∧
      ¬ ∃ number, (parse limits [] [] (.int 5)).result = .ok number := by
  intro limits
  refine ⟨rfl, ?_⟩
  rintro ⟨number, h⟩
  cases h

end Rack

end Formulary
