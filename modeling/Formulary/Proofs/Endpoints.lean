/-
Formulary.Proofs.Endpoints — the two formula endpoints agree.

One endpoint substitutes and evaluates, the other one only substitutes. The first catches whatever
stops it and puts it into its answer; the second has nothing to catch with, so that a filter that
failed would be an error of the server. No filter of a request can fail: a request is made of plain
data, and a rack that is built from data only puts texts in. So both endpoints answer to the same
requests, with the same substituted text, and what is left in that text is what both report.

Answers are compared field by field, as whoever sent the request reads them. First come the requests
themselves, all of them; that a body is read as a request is the schema's part and comes last. All
texts are sequences of characters, so what is in a request can be read and what is in an answer can
be written; half of a surrogate pair is no character and does not occur in either.
-/
import Formulary.Proofs.Diagnostics
import Formulary.Proofs.Doubles
import Formulary.Proofs.PlaceholderValue
import Formulary.Proofs.StagedEntries
import Formulary.Service.Basic

namespace Formulary

/-- The filters of a request never fail. -/
theorem FormulaRequest.substitute_rack (request : FormulaRequest) :
    ∃ text, (request.rack.substitute request.formula).result = .ok text :=
  ⟨_, (Rack.substitute_build _ _ _ request.formula request.formula).1⟩

namespace Service

/-! ## Numbers in answers -/

/-- What stands for a number in an answer: a finite double, or the name of another one. -/
inductive IsNumber : Value → Prop
  | finite {x : Float} : x.isFinite = true → IsNumber (.float x)
  | infinite : IsNumber (textValue "inf")
  | negativeInfinite : IsNumber (textValue "-inf")
  | undefined : IsNumber (textValue "nan")

theorem isNumber_resultValue (x : Float) : IsNumber (resultValue (some x)) := by
  rw [resultValue]
  split
  case isTrue hfinite => exact .finite hfinite
  case isFalse hfinite =>
    have hnone := Number.ofFloat?_eq_none_iff.mpr (Bool.eq_false_iff.mpr hfinite)
    rw [Number.floatText, Number.textIn, hnone]
    simp only
    split
    case isTrue => exact .undefined
    case isFalse =>
      split
      case isTrue => exact .negativeInfinite
      case isFalse => exact .infinite

/-! ## Agreement -/

/-- A request to an endpoint, with a body. -/
def Request.to (endpoint : Endpoint) (body : Value) : Request :=
  ⟨endpoint.method.toList, endpoint.path.toList, some body⟩

/-- The answers of the two endpoints to one request agree, the substituted text being `text`. -/
structure Agree (limits : Limits) (text : Text) (evaluated substituted : Answer) : Prop where
  evaluated_status : evaluated.status = 200
  substituted_status : substituted.status = 200
  evaluated_text : evaluated.body.field? "substituted" = some (.text text)
  substituted_text : substituted.body.field? "substituted" = some (.text text)
  result : evaluated.body.field? "result"
    = some (resultValue (Formulary.evaluate limits text).toOption)
  success : ∃ b, evaluated.body.field? "success" = some (.bool b)
  error : ∃ message, evaluated.body.field? "error" = some (optionalText message)
  result_iff : evaluated.body.field? "result" = some .null ↔
    evaluated.body.field? "success" = some (.bool false)
  error_iff : evaluated.body.field? "success" = some (.bool false) ↔
    evaluated.body.field? "error" ≠ some .null
  number : evaluated.body.field? "result" ≠ some .null →
    ∃ v, evaluated.body.field? "result" = some v ∧ IsNumber v
  /-- What is left of a failed formula is what substituting it alone leaves. -/
  unresolved_eq : evaluated.body.field? "success" = some (.bool false) →
    evaluated.body.field? "unresolved" = substituted.body.field? "unresolved"
  unresolved : substituted.body.field? "unresolved"
    = some (textsValue (Placeholder.unresolved text))

/-- The answer to a formula that is only substituted. -/
def substitutedAnswer (formula text : Text) : Answer :=
  ⟨200, recordValue
    [("original", .text formula), ("substituted", .text text),
      ("unresolved", textsValue (Placeholder.unresolved text))]⟩

variable {limits : Limits} {formula text : Text}

/-- A formula with a value. -/
theorem agree_of_ok {x : Float} (hvalue : Formulary.evaluate limits text = .ok x) :
    Agree limits text ⟨200, evaluationValue ⟨formula, some text, some x, none, []⟩⟩
      (substitutedAnswer formula text) := by
  have hnumber := isNumber_resultValue x
  have hresult : resultValue (some x) ≠ .null := by
    intro hnull
    rw [hnull] at hnumber
    cases hnumber
  exact {
    evaluated_status := rfl
    substituted_status := rfl
    evaluated_text := rfl
    substituted_text := rfl
    result := by rw [hvalue]; rfl
    success := ⟨true, rfl⟩
    error := ⟨none, rfl⟩
    result_iff := ⟨fun h => absurd (Option.some.inj h) hresult, nofun⟩
    error_iff := ⟨nofun, fun h => absurd rfl h⟩
    number := fun _ => ⟨_, rfl, hnumber⟩
    unresolved_eq := nofun
    unresolved := rfl }

/-- A formula without a value, whose substituted text has been searched. -/
theorem agree_of_failed {rejection : Rejection}
    (hvalue : Formulary.evaluate limits text = .error rejection)
    (hsearched : Rack.diagnosed formula (some text) = text) :
    Agree limits text
      ⟨200, evaluationValue (Rack.failedEvaluation formula (some text) rejection.line)⟩
      (substitutedAnswer formula text) where
  evaluated_status := rfl
  substituted_status := rfl
  evaluated_text := rfl
  substituted_text := rfl
  result := by rw [hvalue]; rfl
  success := ⟨false, rfl⟩
  error := ⟨some rejection.line, rfl⟩
  result_iff := ⟨fun _ => rfl, fun _ => rfl⟩
  error_iff := ⟨fun _ => nofun, fun _ => rfl⟩
  number := fun hresult => absurd rfl hresult
  unresolved_eq := fun _ =>
    congrArg (fun text => some (textsValue (Placeholder.unresolved text))) hsearched
  unresolved := rfl

/-! ## Requests -/

variable {settings : Settings} {body : Value} {request : FormulaRequest}

theorem measured_of_le (hlength : request.formula.length ≤ settings.maxFormulaLength)
    (answer : Answer) : measured settings request.formula answer = answer := by
  rw [measured, if_neg (Int.not_lt.mpr hlength)]

/-- To every request whose formula is within the limit, both endpoints give a good answer, and the
answers agree on the text that the filters give. -/
theorem evaluate_substitute_agree
    (hlength : request.formula.length ≤ settings.maxFormulaLength) :
    ∃ text, (request.rack.substitute request.formula).result = .ok text ∧
      Agree settings.limits text (evaluate settings request) (substitute settings request) := by
  obtain ⟨text, htext⟩ := request.substitute_rack
  refine ⟨text, htext, ?_⟩
  rw [evaluate, substitute, measured_of_le hlength, measured_of_le hlength,
    Rack.evaluateWhole_of_substitute settings.limits htext, htext]
  cases hvalue : Formulary.evaluate settings.limits text with
  | ok x => exact agree_of_ok hvalue
  | error rejection => exact agree_of_failed hvalue (Rack.diagnosed_some htext)

/-! ## Bodies -/

theorem withBody_accepted {α : Type} {read : Schema.Fields → Schema.Checked α} {data : α}
    (h : Schema.record read body = .accepted data) (answer : α → Drawing Answer) :
    withBody read (some body) answer = answer data := by
  cases body with
  | record fields =>
    simp only [withBody, h]
    rfl
  | null | bool | int | float | text | list => cases h

/-- A body that is accepted is answered as the request that it is read as. -/
theorem handle_accepted (settings : Settings)
    (hbody : Schema.record FormulaRequest.ofFields body = .accepted request) :
    handle settings (.to .evaluate body) = pure (evaluate settings request) ∧
      handle settings (.to .substitute body) = pure (substitute settings request) :=
  ⟨withBody_accepted hbody fun request => pure (evaluate settings request),
    withBody_accepted hbody fun request => pure (substitute settings request)⟩

/-- **The two formula endpoints agree.** To a request that is accepted and whose formula is within
the limit, both give a good answer, and the answers agree on the text that the filters give. -/
theorem handle_formula_agree (settings : Settings)
    (hbody : Schema.record FormulaRequest.ofFields body = .accepted request)
    (hlength : request.formula.length ≤ settings.maxFormulaLength) :
    ∃ text evaluated substituted,
      (request.rack.substitute request.formula).result = .ok text ∧
      handle settings (.to .evaluate body) = pure evaluated ∧
      handle settings (.to .substitute body) = pure substituted ∧
      Agree settings.limits text evaluated substituted := by
  obtain ⟨hevaluate, hsubstitute⟩ := handle_accepted settings hbody
  obtain ⟨text, htext, hagree⟩ := evaluate_substitute_agree hlength
  exact ⟨text, _, _, htext, hevaluate, hsubstitute, hagree⟩

/-- One placeholder has a value and the other one has not: the formula fails, and both endpoints
report the one that is left. -/
theorem handle_formula_agree_leftOver :
    let body : Value := recordValue
      [("formula", textValue "\x7bx\x7d+\x7by\x7d"),
        ("values", recordValue [("\x7bx\x7d", .int 2)])]
    let leftOver := some (textsValue ["\x7by\x7d".toList])
    ∃ evaluated substituted,
      handle .standard (.to .evaluate body) = pure evaluated ∧
      handle .standard (.to .substitute body) = pure substituted ∧
      evaluated.body.field? "substituted" = some (textValue "2+\x7by\x7d") ∧
      evaluated.body.field? "result" = some .null ∧
      evaluated.body.field? "unresolved" = leftOver ∧
      substituted.body.field? "unresolved" = leftOver := by
  intro body leftOver
  let request : FormulaRequest :=
    { formula := "\x7bx\x7d+\x7by\x7d".toList, values := [("\x7bx\x7d".toList, .int 2)] }
  obtain ⟨text, evaluated, substituted, htext, hevaluated, hsubstituted, agree⟩ :=
    @handle_formula_agree body request .standard rfl (by decide)
  obtain rfl : "2+\x7by\x7d".toList = text := Except.ok.inj htext
  have hnone : (Formulary.evaluate Settings.standard.limits "2+\x7by\x7d".toList).toOption
      = none := by decide +kernel
  have hresult : evaluated.body.field? "result" = some .null := by
    rw [agree.result, hnone]
    rfl
  have hleftOver : substituted.body.field? "unresolved" = leftOver := agree.unresolved
  exact ⟨evaluated, substituted, hevaluated, hsubstituted, agree.evaluated_text, hresult,
    (agree.unresolved_eq (agree.result_iff.mp hresult)).trans hleftOver, hleftOver⟩

end Service

end Formulary
