/-
Formulary.Evaluation — substitute and evaluate a formula, keeping diagnostics.

Whatever stops an evaluation becomes part of the record. The record holds the formula, the
substituted text if all filters ran, and either a result or an error together with the placeholders
that are left. These are looked for in the substituted text, or in the formula itself when a filter
failed.

Making the record can fail, and what fails there comes out. The error is made of the text of the
failure, and there may be none; the formula is shown, and there may be no way to show it; and
placeholders are looked for in a text, which the formula may not be.
-/
import Formulary.Placeholder
import Formulary.Rack

namespace Formulary

/-- The record of an evaluation. -/
structure Evaluation where
  formula : Text
  substituted : Option Text
  result : Option Float
  error : Option Text
  unresolved : List Text

/-- Whether the evaluation gave a result. -/
def Evaluation.success (e : Evaluation) : Bool :=
  e.error.isNone

/-- The number that a value gives when it is evaluated as formula text. Only a text can give one. -/
def evaluateAny (limits : Limits) : Value → Except Rejection Float
  | .text text => evaluate limits text
  | other => throw (.failed (.notText other.kind))

namespace Rack

/-- The events of evaluating a text: it is announced once it is known to fit the length limit. -/
def evaluationEvents (limits : Limits) (text : Text) : List Event :=
  if limits.maxLength < text.length then [] else [.evaluating (formulaSource text)]

/-- The text in which left-over placeholders are looked for. -/
def diagnosed (formula : Text) : Option Text → Text
  | some text => if text.isEmpty then formula else text
  | none => formula

/-- The record of an evaluation that a failure has stopped, given the line for the failure. -/
def failedEvaluation (formula : Text) (substituted : Option Text) (summary : Text) :
    Evaluation where
  formula := formula
  substituted := substituted
  result := none
  error := some summary
  unresolved := Placeholder.unresolved (diagnosed formula substituted)

/-- The warnings for a failure, given the line for it. -/
def warnings (rack : Rack) (selections : List Selection) (formula summary : Text) : List Event :=
  [.formulaFailed formula (Selection.shown rack (.group selections)), .failureReported summary]

/-- The end of an evaluation that a failure has stopped. The line for the failure is made first,
then the formula is shown; if one of the two fails, what is raised there comes out, and nothing is
logged. Then come the warnings, and then the record is made. -/
def recovered (rack : Rack) (events : List Event) (selections : List Selection)
    (shown : Except Failure Text) (failure : Failure)
    (record : Text → Except Failure Evaluation) : Run Evaluation :=
  match failure.summary, shown with
  | .error escaped, _ | .ok _, .error escaped =>
    { result := .error escaped, rack := rack, events := events }
  | .ok summary, .ok formula =>
    { result := record summary
      rack := rack
      events := events ++ warnings rack selections formula summary }

/-- Substitute with the selected filters and evaluate. -/
def evaluate (limits : Limits) (rack : Rack) (arguments : List Selection) (formula : Text) :
    Run Evaluation :=
  let selections := Selection.flatten arguments
  let run := rack.applyAll selections formula
  match run.result with
  | .error failure =>
    recovered run.rack run.events selections (.ok (Text.quoted formula)) failure fun summary =>
      .ok (failedEvaluation formula none summary)
  | .ok text =>
    let events := run.events ++ evaluationEvents limits text
    match Formulary.evaluate limits text with
    | .ok x =>
      { result := .ok
          { formula := formula, substituted := some text, result := some x, error := none,
            unresolved := [] }
        rack := run.rack
        events := events }
    | .error rejection =>
      recovered run.rack events selections (.ok (Text.quoted (diagnosed formula (some text))))
        (.rejected rejection) fun summary => .ok (failedEvaluation formula (some text) summary)

/-- Substitute with all filters of the rack, in their order, and evaluate. -/
def evaluateWhole (limits : Limits) (rack : Rack) (formula : Text) : Run Evaluation :=
  rack.evaluate limits (Selection.ofPositions rack.positions) formula

/-- Substitute and evaluate a value that may be no text. Such a value fails in any case; the search
for left-over placeholders then fails again, since it needs a text. -/
def evaluateValue (limits : Limits) (rack : Rack) (arguments : List Selection) (formula : Value) :
    Run Evaluation :=
  match formula with
  | .text text => rack.evaluate limits arguments text
  | other =>
    let selections := Selection.flatten arguments
    let run := rack.applyAllForeign selections other
    let failure := match run.result with
      | .error failure => failure
      | .ok () => .rejected (.failed (.notText other.kind))
    recovered run.rack run.events selections other.display failure fun _ =>
      .error (.notText other.kind)

/-- The number that a formula gives, if it gives one. -/
def parse (limits : Limits) (rack : Rack) (arguments : List Selection) (formula : Value) :
    Run (Option Float) :=
  let run := rack.evaluateValue limits arguments formula
  { result := run.result.map Evaluation.result, rack := run.rack, events := run.events }

end Rack

end Formulary
