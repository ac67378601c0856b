/-
Formulary.Cli.Basic — what a command line leads to.

Evaluating a formula prints its value, or the error and the placeholders that are left; the log goes
where the errors go. Serving is left to a web server, which is told where and how. The level of the
log is looked at before any command is carried out.
-/
import Formulary.Cli.Help
import Formulary.Cli.Invocation
import Formulary.Evaluation

namespace Formulary.Cli

/-- What a command line leads to: the program finishes with a status and with lines on its two
outputs; or it refuses the command line, in one line and with the usage; or a server has to be
started; or the name of a log level is not known. -/
inductive Effect
  | finished (status : Nat) (output diagnostics : List Text)
  | shown (status : Nat) (page : HelpPage)
  | refused (usage : Text) (line : Text)
  | serving (options : ServeOptions)
  | unknownLevel (name : Text)

/-- The report of an unknown log level. -/
def unknownLevelMessage (name : Text) : Text :=
  "Unknown level: ".toList ++ Text.quoted name

/-- The web application that a server has to run. -/
def application : String := "statformula.api:create_app"

/-- The help page of a reader. -/
def helpPage (settings : Settings) : Reader → HelpPage
  | .program => programPage settings
  | .serve => servePage settings
  | .evaluate => evaluatePage

/-- The assignments as a table: of several values for a token the last one counts, at the place of
the first. -/
def assignmentTable (assignments : List Assignment) : Entries Value :=
  Entries.ofPairs (assignments.map fun a => (a.token, .text a.value))

/-- One keyed assignment put into the tables of its token. -/
def putKeyed (tables : Entries (Entries Scalar)) (a : KeyedAssignment) :
    Entries (Entries Scalar) :=
  tables.put a.token (((tables.get? a.token).getD []).put a.key (.text a.value))

/-- The keyed assignments as descriptions of filters, one for a token. -/
def keyedSpecs (assignments : List KeyedAssignment) : List KeyedSpec :=
  (assignments.foldl putKeyed []).map fun (token, values) =>
    { form := { token := token }, values := values }

/-- The rack that the options describe. -/
def EvaluateOptions.rack (options : EvaluateOptions) : Rack :=
  Rack.build (assignmentTable options.values) (assignmentTable options.staged)
    (keyedSpecs options.keyed)

/-- The lines that report an evaluation without a result. -/
def failureLines (e : Evaluation) : List Text :=
  ("error: ".toList ++ e.error.getD [])
    :: if e.unresolved.isEmpty then []
      else ["unresolved: ".toList ++ Text.join ", ".toList e.unresolved]

/-- The last line that is printed about a failure that nobody has taken. -/
def uncaughtLine (failure : Failure) : Text :=
  failure.name ++ ": ".toList ++ failure.message

/-- Evaluate a formula, logging events of the given severity. -/
def evaluate (settings : Settings) (stamp : Text) (severity : Nat) (options : EvaluateOptions) :
    Effect :=
  let rack := options.rack
  let run := rack.evaluateWhole settings.limits options.formula
  let log := (Event.atLeast severity (rack.built :: run.events)).map (Event.line stamp)
  match run.result with
  | .error failure => .finished 1 [] (log ++ [uncaughtLine failure])
  | .ok e =>
    match e.result with
    | some x => .finished 0 [Number.plainText x] log
    | none => .finished 1 [] (log ++ failureLines e)

/-- Carry out what a command line asks for. -/
def carryOut (settings : Settings) (stamp : Text) (invocation : Invocation) : Effect :=
  let name := Text.uppercase invocation.logLevel
  match severity? name with
  | none => .unknownLevel name
  | some severity =>
    match invocation.command with
    | .none => .shown 1 (programPage settings)
    | .serve options => .serving options
    | .evaluate options => evaluate settings stamp severity options

/-- What a command line leads to; the stamp stands for the time in the log. -/
def run (settings : Settings) (stamp : Text) (texts : List Text) : Effect :=
  match invocation settings texts with
  | .ok invocation => carryOut settings stamp invocation
  | .error (.help reader) => .shown 0 (helpPage settings reader)
  | .error (.complaint c) => .refused (helpPage settings c.reader).usageText c.line

end Formulary.Cli
