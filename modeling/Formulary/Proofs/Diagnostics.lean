/-
Formulary.Proofs.Diagnostics — the record of an evaluation says what happened.

The fields of the record are linked: a result or an error, never both or neither; the substituted
text unless a filter failed; and, with an error, the placeholders that are left. `Diagnosis` states
these links for one record, in terms of the run of the filters and the value of its text.

There is a record unless its error cannot be made: that takes the text of the failure, and a filter
may raise one of which there is no text. What is raised in its place then comes out of the
evaluation. The evaluator itself only raises failures that have a text.

Left-over placeholders are looked for in the substituted text, but an empty one counts as none and
the formula is searched in its place. That is no mistake, because a text that is not empty stays so:
no filter, of any kind, can make it vanish. A usable replacement is never empty, and a placeholder
that is not replaced stays.
-/
import Formulary.Evaluation
import Formulary.Proofs.Applying

namespace Formulary

theorem eq_ok_of_toOption {ε α : Type} {outcome : Except ε α} {a : α}
    (h : outcome.toOption = some a) : outcome = .ok a := by
  cases outcome with
  | error => cases h
  | ok => exact congrArg Except.ok (Option.some.inj h)

/-- The line for a rejection. -/
def Rejection.line (rejection : Rejection) : Text :=
  rejection.name.toList ++ ": ".toList ++ rejection.message

theorem Selection.flatten_ofPositions (positions : List Nat) :
    flatten (ofPositions positions) = ofPositions positions := by
  cases positions <;> rfl

/-! ## Texts do not vanish -/

/-- A replacement that may be put into a template is not empty. -/
theorem Replacement.ne_nil_of_accepted? {replacement : Option Text} {new : Text}
    (h : accepted? replacement = some new) : new ≠ [] := by
  cases replacement with
  | none => cases h
  | some t =>
    rw [accepted?] at h
    split at h
    case isTrue hvalid =>
      cases h
      simp only [isValidText, Bool.and_eq_true, Bool.not_eq_true', List.isEmpty_eq_false_iff]
        at hvalid
      exact hvalid.1
    case isFalse => cases h

theorem Text.replaceAll_ne_nil {new text : Text} (token : Text) (hnew : new ≠ [])
    (htext : text ≠ []) : replaceAll token new text ≠ [] := by
  obtain ⟨c, rest, rfl⟩ := List.exists_cons_of_ne_nil htext
  rw [replaceAll]
  split
  case isTrue => exact List.append_ne_nil_of_right_ne_nil _ hnew
  case isFalse =>
    rw [replaceFrom]
    split
    case isTrue => exact List.append_ne_nil_of_left_ne_nil hnew _
    case isFalse => exact List.cons_ne_nil _ _

namespace Filter

variable {f : Filter} {form : KeyedForm} {replacer : Replacer} {text new : Text}

theorem substitute_ne_nil (token : Text) (replacement : Option Text) (htext : text ≠ []) :
    (substitute token replacement text).1 ≠ [] := by
  rw [substitute]
  split
  case h_1 new haccepted =>
    exact Text.replaceAll_ne_nil token (Replacement.ne_nil_of_accepted? haccepted) htext
  case h_2 => exact htext

/-- The first piece of a text that is not empty stands for at least one character: an empty key is
never read off a form without any text of its own. -/
theorem pieces_eq_cons (form : KeyedForm) (htext : text ≠ []) :
    ∃ piece more, form.pieces text = piece :: more ∧ form.pieceText piece ≠ [] := by
  obtain ⟨c, rest, rfl⟩ := List.exists_cons_of_ne_nil htext
  rw [KeyedForm.pieces, KeyedForm.piecesFrom]
  split
  case h_2 => exact ⟨_, _, rfl, List.cons_ne_nil _ _⟩
  case h_1 key _ =>
    simp only
    split
    case isFalse hlength =>
      exact ⟨_, _, rfl, List.ne_nil_of_length_pos (Nat.pos_of_ne_zero hlength)⟩
    case isTrue =>
      refine ⟨_, _, rfl, ?_⟩
      rw [KeyedForm.bareKey]
      split
      case isTrue => exact List.cons_ne_nil _ _
      case isFalse => simp [KeyedForm.pieceText, KeyedForm.placeholder]

/-- A piece that stands for some text is resolved to some text. -/
theorem resolvePieces_ne_nil {calls : List Call} {piece : Piece} {more : List Piece}
    (hpiece : form.pieceText piece ≠ [])
    (h : (resolvePieces form replacer calls (piece :: more)).result = .ok new) : new ≠ [] := by
  -- What is behind the first piece only adds to its text.
  have hbehind : ∀ {front : Text} {behind : Except Failure Text}, front ≠ [] →
      behind.map (front ++ ·) = .ok new → new ≠ [] := by
    intro front behind hfront hmap
    cases behind with
    | error failure => cases hmap
    | ok rest =>
      cases hmap
      exact List.append_ne_nil_of_left_ne_nil hfront rest
  cases piece with
  | plain c => exact hbehind (List.cons_ne_nil c []) h
  | keyed key =>
    cases key with
    | nil => exact hbehind hpiece h
    | cons k key =>
      have hkey := List.cons_ne_nil k key
      cases hanswer : replacer.answer calls (some (k :: key)) with
      | error failure =>
        rw [resolvePieces_keyed_of_error hkey hanswer] at h
        cases h
      | ok value =>
        rw [resolvePieces_keyed_of_ok hkey hanswer] at h
        refine hbehind ?_ h
        cases haccepted : Replacement.accepted? (Replacement.ofValue value) with
        | none => exact hpiece
        | some accepted => exact Replacement.ne_nil_of_accepted? haccepted

/-- **No filter makes a text vanish.** -/
theorem apply_ne_nil (htext : text ≠ []) (h : (f.apply text).result = .ok new) : new ≠ [] := by
  cases hreplacer : f.replacer with
  | none =>
    rw [apply_idle hreplacer] at h
    cases h
    exact htext
  | some replacer =>
    by_cases hkeyed : ∃ form, f.kind = .keyed form
    · obtain ⟨form, hkind⟩ := hkeyed
      rw [(apply_keyed hkind hreplacer text).1] at h
      obtain ⟨piece, more, hpieces, hpiece⟩ := pieces_eq_cons form htext
      rw [hpieces] at h
      exact resolvePieces_ne_nil hpiece h
    · rw [(apply_unkeyed (not_exists.mp hkeyed) hreplacer text).1] at h
      cases hfetched : (f.fetchReplacement replacer).result with
      | error failure =>
        rw [hfetched] at h
        cases h
      | ok replacement =>
        rw [hfetched] at h
        cases h
        exact substitute_ne_nil f.token replacement htext

end Filter

namespace Rack

open Selection (ofPositions)

variable {rack : Rack} {position : Nat} {positions : List Nat} {formula text : Text}
  {failure : Failure}

/-! ## Runs of filters -/

/-- The first failure ends a run. -/
theorem applyAll_cons_of_error (h : (rack.applyAt position formula).result = .error failure)
    (positions : List Nat) :
    (rack.applyAll (ofPositions (position :: positions)) formula).result = .error failure := by
  simp only [ofPositions, List.map_cons, applyAll, h]

/-- A run goes on with the text and the rack that its first filter has left. -/
theorem applyAll_cons_of_ok (h : (rack.applyAt position formula).result = .ok text)
    (positions : List Nat) :
    (rack.applyAll (ofPositions (position :: positions)) formula).result
        = ((rack.applyAt position formula).rack.applyAll (ofPositions positions) text).result ∧
      (rack.applyAll (ofPositions (position :: positions)) formula).rack
        = ((rack.applyAt position formula).rack.applyAll (ofPositions positions) text).rack := by
  simp only [ofPositions, List.map_cons, applyAll, h, and_self]

/-- No run of filters makes a text vanish. -/
theorem applyAll_ne_nil (hformula : formula ≠ [])
    (h : (rack.applyAll (ofPositions positions) formula).result = .ok text) : text ≠ [] := by
  induction positions generalizing rack formula with
  | nil =>
    cases h
    exact hformula
  | cons position rest ih =>
    cases hfirst : (rack.applyAt position formula).result with
    | error failure =>
      rw [applyAll_cons_of_error hfirst] at h
      cases h
    | ok new =>
      rw [(applyAll_cons_of_ok hfirst rest).1] at h
      refine ih ?_ h
      rw [applyAt] at hfirst
      split at hfirst
      case h_1 =>
        cases hfirst
        exact hformula
      case h_2 => exact Filter.apply_ne_nil hformula hfirst

/-- A filter of the run raised the failure: those in front of it gave a text, and applying it to
that text failed. -/
def Raises (rack : Rack) (positions : List Nat) (formula : Text) (failure : Failure) : Prop :=
  ∃ before position behind text, positions = before ++ position :: behind ∧
    (rack.applyAll (ofPositions before) formula).result = .ok text ∧
    ((rack.applyAll (ofPositions before) formula).rack.applyAt position text).result
      = .error failure

/-- What raises is the first filter, or one behind it. -/
theorem raises_cons :
    Raises rack (position :: positions) formula failure ↔
      (rack.applyAt position formula).result = .error failure ∨
        ∃ text, (rack.applyAt position formula).result = .ok text ∧
          Raises (rack.applyAt position formula).rack positions text failure := by
  constructor
  · rintro ⟨before, other, behind, new, hpositions, hbefore, hraised⟩
    cases before with
    | nil =>
      cases hpositions
      cases hbefore
      exact .inl hraised
    | cons first before =>
      cases hpositions
      cases hfirst : (rack.applyAt position formula).result with
      | error other =>
        rw [applyAll_cons_of_error hfirst] at hbefore
        cases hbefore
      | ok text =>
        obtain ⟨hresult, hrack⟩ := applyAll_cons_of_ok hfirst before
        rw [hresult] at hbefore
        rw [hrack] at hraised
        exact .inr ⟨text, rfl, before, other, behind, new, rfl, hbefore, hraised⟩
  · rintro (hraised | ⟨text, hfirst, before, other, behind, new, rfl, hbefore, hraised⟩)
    · exact ⟨[], position, positions, formula, rfl, rfl, hraised⟩
    · obtain ⟨hresult, hrack⟩ := applyAll_cons_of_ok hfirst before
      refine ⟨position :: before, other, behind, new, rfl, hresult.trans hbefore, ?_⟩
      rw [hrack]
      exact hraised

/-- A run fails exactly when one of its filters does. -/
theorem applyAll_eq_error_iff :
    (rack.applyAll (ofPositions positions) formula).result = .error failure ↔
      Raises rack positions formula failure := by
  induction positions generalizing rack formula with
  | nil =>
    refine ⟨nofun, ?_⟩
    rintro ⟨before, position, behind, text, hpositions, -⟩
    simp at hpositions
  | cons position rest ih =>
    rw [raises_cons]
    cases hfirst : (rack.applyAt position formula).result with
    | error other => simp [applyAll_cons_of_error hfirst]
    | ok text => simp [(applyAll_cons_of_ok hfirst rest).1, ih]

/-! ## The ends of an evaluation -/

section Ends

variable {limits : Limits} {arguments : List Selection} {rejection : Rejection} {x : Float}

/-- The line for the failure is made, the formula is shown, and then comes the record. -/
theorem result_recovered {events : List Event} {selections : List Selection}
    (shown : Except Failure Text) (record : Text → Except Failure Evaluation) :
    (recovered rack events selections shown failure record).result
      = failure.summary.bind fun summary => shown.bind fun _ => record summary := by
  unfold recovered
  cases failure.summary <;> cases shown <;> rfl

/-- A filter that fails leaves a record of the formula alone, or what its text raises comes out. -/
theorem evaluate_of_raised
    (hrun : (rack.applyAll (Selection.flatten arguments) formula).result = .error failure) :
    (rack.evaluate limits arguments formula).result
      = failure.summary.map (failedEvaluation formula none) := by
  rw [evaluate]
  simp only [hrun]
  rw [result_recovered]
  cases failure.summary <;> rfl

/-- A text without a value leaves a record with the text in it. -/
theorem evaluate_of_rejected
    (hrun : (rack.applyAll (Selection.flatten arguments) formula).result = .ok text)
    (hvalue : Formulary.evaluate limits text = .error rejection) :
    (rack.evaluate limits arguments formula).result
      = .ok (failedEvaluation formula (some text) rejection.line) := by
  rw [evaluate]
  simp only [hrun, hvalue]
  rfl

/-- A text with a value leaves a record without an error. -/
theorem evaluate_of_ok
    (hrun : (rack.applyAll (Selection.flatten arguments) formula).result = .ok text)
    (hvalue : Formulary.evaluate limits text = .ok x) :
    (rack.evaluate limits arguments formula).result
      = .ok ⟨formula, some text, some x, none, []⟩ := by
  rw [evaluate]
  simp only [hrun, hvalue]

/-- Evaluating with the whole rack, if substituting gives a text, always leaves a record. -/
theorem evaluateWhole_of_substitute (limits : Limits)
    (h : (rack.substitute formula).result = .ok text) :
    (rack.evaluateWhole limits formula).result =
      .ok (match Formulary.evaluate limits text with
        | .ok x => ⟨formula, some text, some x, none, []⟩
        | .error rejection => failedEvaluation formula (some text) rejection.line) := by
  have hrun : (rack.applyAll (Selection.flatten (ofPositions rack.positions)) formula).result
      = .ok text := by
    rw [Selection.flatten_ofPositions]
    exact h
  rw [evaluateWhole]
  cases hvalue : Formulary.evaluate limits text with
  | ok x => exact evaluate_of_ok hrun hvalue
  | error rejection => exact evaluate_of_rejected hrun hvalue

end Ends

/-! ## The record of an evaluation -/

/-- What stops an evaluation: a filter, or else the evaluation of the text that the filters gave. -/
def Stops (limits : Limits) (rack : Rack) (positions : List Nat) (formula : Text)
    (failure : Failure) : Prop :=
  Raises rack positions formula failure ∨
    ∃ text rejection, (rack.applyAll (ofPositions positions) formula).result = .ok text ∧
      Formulary.evaluate limits text = .error rejection ∧ failure = .rejected rejection

/-- The record says what happened, in each of its fields. -/
structure Diagnosis (limits : Limits) (rack : Rack) (positions : List Nat) (formula : Text)
    (e : Evaluation) : Prop where
  formula_eq : e.formula = formula
  success_iff : e.success = true ↔ e.error = none
  error_iff : e.error = none ↔ e.result ≠ none
  /-- The substituted text is the text that the filters give, if they give one. -/
  substituted_iff : ∀ text, e.substituted = some text ↔
    (rack.applyAll (ofPositions positions) formula).result = .ok text
  raised_iff : e.substituted = none ↔ ∃ failure, Raises rack positions formula failure
  succeeded : e.success = true → ∃ text x, e.substituted = some text ∧
    Formulary.evaluate limits text = .ok x ∧ e.result = some x ∧ e.unresolved = []
  /-- The error names what stopped the evaluation, with its text. -/
  failed : e.success = false → ∃ failure message, Stops limits rack positions formula failure ∧
    failure.text = .ok message ∧ e.error = some (failure.name ++ ": ".toList ++ message) ∧
    e.unresolved = Placeholder.unresolved (e.substituted.getD formula)

/-- An empty text is searched for placeholders only if the formula is empty too. -/
theorem diagnosed_some (h : (rack.applyAll (ofPositions positions) formula).result = .ok text) :
    diagnosed formula (some text) = text := by
  rw [diagnosed]
  split
  case isTrue hempty =>
    have htext := List.isEmpty_iff.mp hempty
    rw [htext]
    apply Classical.byContradiction
    intro hformula
    exact applyAll_ne_nil hformula h htext
  case isFalse => rfl

variable {message : Text} {rejection : Rejection} {x : Float}

/-- A record that a filter's failure has left. -/
theorem diagnosis_of_raised (limits : Limits) (hraises : Raises rack positions formula failure)
    (hmessage : failure.text = .ok message) :
    Diagnosis limits rack positions formula
      (failedEvaluation formula none (failure.name ++ ": ".toList ++ message)) where
  formula_eq := rfl
  success_iff := by simp [failedEvaluation, Evaluation.success]
  error_iff := by simp [failedEvaluation]
  substituted_iff := fun text => by simp [failedEvaluation, applyAll_eq_error_iff.mpr hraises]
  raised_iff := ⟨fun _ => ⟨failure, hraises⟩, fun _ => rfl⟩
  succeeded := nofun
  failed := fun _ => ⟨failure, message, .inl hraises, hmessage, rfl, rfl⟩

/-- Filters that give a text have not failed. -/
theorem not_raises_of_ok
    (hrun : (rack.applyAll (ofPositions positions) formula).result = .ok text) :
    ¬ ∃ failure, Raises rack positions formula failure := by
  rintro ⟨failure, hraises⟩
  rw [applyAll_eq_error_iff.mpr hraises] at hrun
  cases hrun

/-- A record that a text without a value has left. -/
theorem diagnosis_of_rejected {limits : Limits}
    (hrun : (rack.applyAll (ofPositions positions) formula).result = .ok text)
    (hvalue : Formulary.evaluate limits text = .error rejection) :
    Diagnosis limits rack positions formula
      (failedEvaluation formula (some text) rejection.line) where
  formula_eq := rfl
  success_iff := by simp [failedEvaluation, Evaluation.success]
  error_iff := by simp [failedEvaluation]
  substituted_iff := fun other => by simp [failedEvaluation, hrun]
  raised_iff := ⟨nofun, fun h => absurd h (not_raises_of_ok hrun)⟩
  succeeded := nofun
  failed := fun _ => ⟨.rejected rejection, rejection.message,
    .inr ⟨text, rejection, hrun, hvalue, rfl⟩, rfl, rfl,
    congrArg Placeholder.unresolved (diagnosed_some hrun)⟩

/-- A record of a text with a value. -/
theorem diagnosis_of_ok {limits : Limits}
    (hrun : (rack.applyAll (ofPositions positions) formula).result = .ok text)
    (hvalue : Formulary.evaluate limits text = .ok x) :
    Diagnosis limits rack positions formula ⟨formula, some text, some x, none, []⟩ where
  formula_eq := rfl
  success_iff := by simp [Evaluation.success]
  error_iff := by simp
  substituted_iff := fun other => by simp [hrun]
  raised_iff := ⟨nofun, fun h => absurd h (not_raises_of_ok hrun)⟩
  succeeded := fun _ => ⟨text, x, rfl, hvalue, rfl, rfl⟩
  failed := nofun

/-- **The diagnostics are complete and consistent, where the failure of a filter has a text.**
Evaluating a text with filters, whatever they hold, answer or raise, gives a record unless a filter
raises a failure of which no text can be made; what is raised in the place of that text comes out
then, and nothing else ever does. Every record says what happened. -/
theorem evaluate_diagnosis (limits : Limits) {rack : Rack} {arguments : List Selection}
    {positions : List Nat} (harguments : Selection.flatten arguments = ofPositions positions)
    (formula : Text) :
    ((∃ e, (rack.evaluateValue limits arguments (.text formula)).result = .ok e) ↔
      ∀ failure, Raises rack positions formula failure → ∃ message, failure.text = .ok message) ∧
    (∀ escaped, (rack.evaluateValue limits arguments (.text formula)).result = .error escaped ↔
      ∃ failure, Raises rack positions formula failure ∧ failure.text = .error escaped) ∧
    ∀ e, (rack.evaluateValue limits arguments (.text formula)).result = .ok e →
      Diagnosis limits rack positions formula e := by
  have hvalue : rack.evaluateValue limits arguments (.text formula)
      = rack.evaluate limits arguments formula := rfl
  rw [hvalue]
  cases hrun : (rack.applyAll (Selection.flatten arguments) formula).result with
  | error failure =>
    -- The failure that has ended the run is the only one that a filter has raised.
    have hraises : ∀ other, Raises rack positions formula other ↔ other = failure := by
      intro other
      rw [← applyAll_eq_error_iff, ← harguments, hrun, Except.error.injEq, eq_comm]
    rw [evaluate_of_raised hrun, Failure.summary]
    simp only [hraises, forall_eq, exists_eq_left]
    cases hmessage : failure.text with
    | error escaped => simp [Except.map]
    | ok message =>
      have hdiagnosis := diagnosis_of_raised limits ((hraises failure).mpr rfl) hmessage
      simpa [Except.map] using hdiagnosis
  | ok text =>
    have hpositions := harguments ▸ hrun
    have hnone : ∀ failure, ¬ Raises rack positions formula failure :=
      not_exists.mp (not_raises_of_ok hpositions)
    simp only [hnone, false_and, exists_false, false_imp_iff, implies_true, iff_true, iff_false]
    cases hvalue : Formulary.evaluate limits text with
    | ok x =>
      have hdiagnosis := diagnosis_of_ok hpositions hvalue
      simpa [evaluate_of_ok hrun hvalue] using hdiagnosis
    | error rejection =>
      have hdiagnosis := diagnosis_of_rejected hpositions hvalue
      simpa [evaluate_of_rejected hrun hvalue] using hdiagnosis

/-- The first placeholder is replaced, the filter for the second one raises: the record has no
substituted text, names the failure, and lists the placeholders of the formula, both of them. -/
theorem evaluate_diagnosis_raised :
    let rack : Rack :=
      [ { kind := .literal "\x7ba\x7d".toList, replacer := some (.constant (.int 1)) },
        { kind := .literal "\x7bb\x7d".toList
          replacer := some ⟨fun _ _ => .error (.raised "RuntimeError" (some "no b".toList))⟩ } ]
    let limits : Limits := { maxLength := 1000, maxExponent := 1000 }
    let formula := "\x7ba\x7d+\x7bb\x7d".toList
    ∃ e, (rack.evaluateValue limits [.group (ofPositions [0, 1])] (.text formula)).result = .ok e ∧
      e.substituted = none ∧ e.error = some "RuntimeError: no b".toList ∧
      e.unresolved = ["\x7ba\x7d".toList, "\x7bb\x7d".toList] := by
  intro rack limits formula
  have hraised : (rack.applyAll (ofPositions [0, 1]) formula).result
      = .error (.raised "RuntimeError" (some "no b".toList)) := rfl
  have honly : ∀ failure, Raises rack [0, 1] formula failure →
      failure = .raised "RuntimeError" (some "no b".toList) := by
    intro failure hraises
    have hresult := applyAll_eq_error_iff.mpr hraises
    rw [hraised] at hresult
    exact (Except.error.inj hresult).symm
  obtain ⟨hrecord, -, hdiagnosis⟩ := @evaluate_diagnosis limits rack
    [.group (ofPositions [0, 1])] [0, 1] rfl formula
  obtain ⟨e, he⟩ := hrecord.mpr fun failure hraises => by
    rw [honly failure hraises]
    exact ⟨_, rfl⟩
  have diagnosis := hdiagnosis e he
  have hnone := diagnosis.raised_iff.mpr ⟨_, applyAll_eq_error_iff.mp hraised⟩
  have hsuccess : e.success = false := by
    rw [Bool.eq_false_iff]
    intro h
    obtain ⟨text, x, hsome, -⟩ := diagnosis.succeeded h
    rw [hnone] at hsome
    cases hsome
  obtain ⟨failure, message, hstops, hmessage, herror, hunresolved⟩ := diagnosis.failed hsuccess
  have hfailure : failure = .raised "RuntimeError" (some "no b".toList) := by
    rcases hstops with hraises | ⟨text, -, hok, -⟩
    · exact honly failure hraises
    · rw [hraised] at hok
      cases hok
  rw [hfailure] at hmessage herror
  obtain rfl : "no b".toList = message := Except.ok.inj hmessage
  refine ⟨e, he, hnone, herror, ?_⟩
  rw [hunresolved, hnone]
  rfl

/-- A filter raises an exception about an integer of too many digits: its text cannot be made, and
that failure comes out of the evaluation in the place of a record. -/
theorem evaluate_diagnosis_textless :
    let rack : Rack :=
      [ { kind := .literal "\x7bx\x7d".toList
          replacer := some ⟨fun _ _ => .error (.textless "ValueError" .tooManyDigits)⟩ } ]
    let limits : Limits := { maxLength := 1000, maxExponent := 1000 }
    let run := rack.evaluateValue limits [.filter 0] (.text "\x7bx\x7d".toList)
    run.result = .error .tooManyDigits ∧ ¬ ∃ e, run.result = .ok e := by
  intro rack limits run
  refine ⟨rfl, ?_⟩
  rintro ⟨e, h⟩
  cases h

end Rack

end Formulary
