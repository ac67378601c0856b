/-
Formulary.Service.Basic — the service: what is answered to a request.

There are four endpoints. A request names a path and a method and may have a body; the answer is a
status and a body. Answers are programs of draws, since one endpoint samples; the others draw
nothing. A body that does not fit is refused with all its problems. Formulas are measured before
anything else is done with them; a formula that cannot be evaluated is a good answer, with the
reason in it.
-/
import Formulary.Evaluation
import Formulary.Service.Request
import Formulary.Settings

namespace Formulary.Service

/-! ## Requests and answers -/

/-- A request: the method, the path below the root of the service, and the body, if there is one. -/
structure Request where
  method : Text
  path : Text
  body : Option Value

/-- An answer: the status and the body. -/
structure Answer where
  status : Nat
  body : Value

/-- A text as a value. -/
def textValue (s : String) : Value :=
  .text s.toList

/-- A record with the given fields. -/
def recordValue (fields : List (String × Value)) : Value :=
  .record (fields.map fun (name, value) => (name.toList, value))

/-- A list of texts as a value. -/
def textsValue (texts : List Text) : Value :=
  .list (texts.map .text)

/-- A text that may be missing as a value. -/
def optionalText : Option Text → Value
  | some t => .text t
  | none => .null

/-- An answer that only says what is wrong. -/
def Answer.detail (status : Nat) (text : Text) : Answer :=
  ⟨status, recordValue [("detail", .text text)]⟩

/-- The answer when a failure has come out of an endpoint: nobody outside is told which one. -/
def Answer.serverError : Answer :=
  .detail 500 "Internal Server Error".toList

/-- A step of a path as a value. -/
def stepValue : Schema.Step → Value
  | .field name => .text name
  | .element index => .int index

/-- A problem as a value. -/
def problemValue (problem : Schema.Problem) : Value :=
  recordValue
    [("loc", .list (problem.path.map stepValue)), ("type", textValue problem.mismatch.code),
      ("msg", textValue problem.mismatch.message)]

/-- The answer to a body with problems. -/
def Answer.unprocessable (problems : List Schema.Problem) : Answer :=
  ⟨422, .list (problems.map problemValue)⟩

/-! ## Endpoints -/

/-- The endpoints of the service. -/
inductive Endpoint
  | health
  | evaluate
  | substitute
  | randomIndex
deriving DecidableEq, Repr

namespace Endpoint

/-- All endpoints. -/
def all : List Endpoint :=
  [.health, .evaluate, .substitute, .randomIndex]

/-- The path of an endpoint. -/
def path : Endpoint → String
  | .health => "/health"
  | .evaluate => "/formula/evaluate"
  | .substitute => "/formula/substitute"
  | .randomIndex => "/random/index"

/-- The method of an endpoint. -/
def method : Endpoint → String
  | .health => "GET"
  | _ => "POST"

/-- A path without its query and without slashes at its end. -/
def trimmedPath (path : Text) : Text :=
  let path := path.takeWhile fun c => c != '?' && c != '#'
  (path.reverse.dropWhile (· == '/')).reverse

/-- The endpoint at a path. -/
def ofPath? (path : Text) : Option Endpoint :=
  all.find? fun endpoint => endpoint.path.toList == trimmedPath path

end Endpoint

/-! ## Formulas -/

/-- The name of the service. -/
def name : String := "statformula"

/-- The version of the service. -/
def version : String := "0.1.0"

/-- The answer of the health endpoint: that the service is there, and its settings. -/
def health (settings : Settings) : Answer :=
  ⟨200, recordValue
    [("status", textValue "ok"), ("service", textValue name), ("version", textValue version),
      ("config", recordValue
        [("max_formula_length", .int settings.maxFormulaLength),
          ("max_exponent", .int settings.maxExponent), ("debug", .bool settings.debug)])]⟩

/-- A result as a value: an infinite or undefined one is given as a text. -/
def resultValue : Option Float → Value
  | none => .null
  | some x => if x.isFinite then .float x else .text (Number.floatText x)

/-- The answer to a formula, unless it is too long. -/
def measured (settings : Settings) (formula : Text) (answer : Answer) : Answer :=
  if settings.maxFormulaLength < formula.length then
    .detail 400
      ("Formula exceeds maximum length of ".toList ++ Number.intText settings.maxFormulaLength
        ++ " characters".toList)
  else answer

/-- A record of an evaluation as a value. -/
def evaluationValue (e : Evaluation) : Value :=
  recordValue
    [("formula", .text e.formula), ("substituted", optionalText e.substituted),
      ("result", resultValue e.result), ("success", .bool e.success),
      ("error", optionalText e.error), ("unresolved", textsValue e.unresolved)]

/-- Substitute and evaluate a formula. -/
def evaluate (settings : Settings) (request : FormulaRequest) : Answer :=
  measured settings request.formula
    (match (request.rack.evaluateWhole settings.limits request.formula).result with
      | .error _ => .serverError
      | .ok e => ⟨200, evaluationValue e⟩)

/-- Substitute only. -/
def substitute (settings : Settings) (request : FormulaRequest) : Answer :=
  measured settings request.formula
    (match (request.rack.substitute request.formula).result with
      | .error _ => .serverError
      | .ok text =>
        ⟨200, recordValue
          [("original", .text request.formula), ("substituted", .text text),
            ("unresolved", textsValue (Placeholder.unresolved text))]⟩)

/-! ## Ranges -/

/-- Draw a value from the union of ranges. -/
def randomIndex (request : RangeRequest) : Drawing Answer :=
  match SamplingMode.ofName? request.mode with
  | none => pure (.detail 400 ("Unknown sampling mode: ".toList ++ request.mode))
  | some mode =>
    match Sampling.fromRanges mode request.intervals with
    | .error error => pure (.detail 400 error.message)
    | .ok draw => (fun n => ⟨200, recordValue [("value", .int n)]⟩) <$> draw

/-! ## Dispatch -/

/-- Answer a request with a body, once the body has been read; its problems are those of a part of
the request. -/
def withBody {α : Type} (read : Schema.Fields → Schema.Checked α) (body : Option Value)
    (answer : α → Drawing Answer) : Drawing Answer :=
  let place : Schema.Step := .field "body".toList
  match body with
  | none | some .null => pure (.unprocessable [⟨[place], .missing⟩])
  | some value =>
    match (Schema.record read value).within place with
    | .refused problems => pure (.unprocessable problems)
    | .accepted request => answer request

/-- Answer a request to an endpoint. -/
def serve (settings : Settings) (body : Option Value) : Endpoint → Drawing Answer
  | .health => pure (health settings)
  | .evaluate => withBody FormulaRequest.ofFields body fun r => pure (evaluate settings r)
  | .substitute => withBody FormulaRequest.ofFields body fun r => pure (substitute settings r)
  | .randomIndex => withBody RangeRequest.ofFields body randomIndex

/-- Answer a request. -/
def handle (settings : Settings) (request : Request) : Drawing Answer :=
  match Endpoint.ofPath? request.path with
  | none => pure (.detail 404 "Not Found".toList)
  | some endpoint =>
    if endpoint.method.toList == request.method then serve settings request.body endpoint
    else pure (.detail 405 "Method Not Allowed".toList)

end Formulary.Service
