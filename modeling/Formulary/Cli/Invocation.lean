/-
Formulary.Cli.Invocation — what a command line asks for.

The program reads its own flags up to the first plain word, which names the command; the command
reads the rest. A reader goes through its words from the left and takes each flag when it comes to
it, so the first flag that cannot be taken, or asks for help, decides. Words that nobody takes are
collected and reported at the very end. The separator is dropped next to the formula and is such a
left-over word anywhere else.
-/
import Formulary.Cli.Usage
import Formulary.Settings

namespace Formulary.Cli

/-- Where and how to serve. -/
structure ServeOptions where
  host : Text
  port : Int
  reload : Bool := false

/-- What to evaluate. -/
structure EvaluateOptions where
  formula : Text
  values : List Assignment := []
  staged : List Assignment := []
  keyed : List KeyedAssignment := []

/-- A command. -/
inductive Command
  | none
  | serve (options : ServeOptions)
  | evaluate (options : EvaluateOptions)

/-- What a command line asks for. -/
structure Invocation where
  logLevel : Text
  command : Command

/-- Why a command line asks for nothing that could be done. -/
inductive Stop
  | help (reader : Reader)
  | complaint (c : Complaint)

/-- What a reader has made of its words: its options, and the words that nobody took. -/
structure Outcome (σ : Type) where
  options : σ
  leftOver : List Text

/-- The outcome with one more left-over word in front. -/
def Outcome.leaving {σ : Type} (word : Text) (o : Outcome σ) : Outcome σ :=
  { o with leftOver := word :: o.leftOver }

/-- How a reader takes the parts of its command line: flags with their arguments, and plain words as
long as it wants one. -/
structure Taking (σ : Type) where
  reader : Reader
  takeFlag : σ → Flag → Text → Except ArgumentFault σ
  wantsPlain : σ → Bool
  takePlain : σ → Text → σ

/-- Stop with a complaint about an argument. -/
def argumentStop (reader : Reader) (flag : Flag) (fault : ArgumentFault) : Stop :=
  .complaint ⟨reader, .argument flag fault⟩

/-- Why a flag without an argument cannot have been given one. A short flag may be repeated in one
word, and what follows the repetitions is the argument. -/
def unwantedArgument? (spelled : Text) : Option Text → Option Text
  | none => none
  | some argument =>
    if separatorText.isPrefixOf spelled || argument.isEmpty then some argument
    else
      let others := argument.dropWhile fun c => spelled.getLast? == some c
      if others.isEmpty then none else some others

namespace Taking

variable {σ : Type}

/-- Take a flag with its argument. -/
def flagTaken (t : Taking σ) (options : σ) (flag : Flag) (argument : Text) : Except Stop σ :=
  match t.takeFlag options flag argument with
  | .ok options => pure options
  | .error fault => throw (argumentStop t.reader flag fault)

/-- Take a flag that has no argument; the one that asks for help ends the reading. -/
def bareFlagTaken (t : Taking σ) (options : σ) (s : Spelling) (argument : Option Text) :
    Except Stop σ :=
  match unwantedArgument? s.spelled argument with
  | some argument => throw (argumentStop t.reader s.flag (.ignored argument))
  | none => if s.flag = .help then throw (.help t.reader) else t.flagTaken options s.flag []

/-- Go through the words. `pending` is a flag whose argument has to be the next word, and `placed`
says that the word before was a plain one that the reader has taken. -/
def scan (t : Taking σ) : Option Flag → Bool → σ → List Word → Except Stop (Outcome σ)
  | none, _, options, [] => pure ⟨options, []⟩
  | some flag, _, _, [] => throw (argumentStop t.reader flag .expected)
  | some flag, _, options, word :: rest =>
    match word.role with
    | .plain => do
      let options ← t.flagTaken options flag word.text
      t.scan none false options rest
    | _ => throw (argumentStop t.reader flag .expected)
  | none, placed, options, word :: rest =>
    match word.role with
    | .plain =>
      if t.wantsPlain options then t.scan none true (t.takePlain options word.text) rest
      else (Outcome.leaving word.text) <$> t.scan none false options rest
    | .separator =>
      if placed || (t.wantsPlain options && !rest.isEmpty) then t.scan none false options rest
      else (Outcome.leaving word.text) <$> t.scan none false options rest
    | .unknown => (Outcome.leaving word.text) <$> t.scan none false options rest
    | .flag s argument =>
      if s.flag.takesArgument then
        match argument with
        | some argument => do
          let options ← t.flagTaken options s.flag argument
          t.scan none false options rest
        | none => t.scan (some s.flag) false options rest
      else do
        let options ← t.bareFlagTaken options s argument
        t.scan none false options rest

/-- Read a command line. -/
def read (t : Taking σ) (options : σ) (texts : List Text) : Except Stop (Outcome σ) :=
  match words t.reader.known texts with
  | .error ambiguity => throw (.complaint ⟨t.reader, .ambiguous ambiguity⟩)
  | .ok words => t.scan none false options words

end Taking

/-! ## The commands -/

/-- How the command that serves takes its flags. -/
def servingTaking : Taking ServeOptions where
  reader := .serve
  takeFlag options flag argument :=
    match flag with
    | .host => pure { options with host := argument }
    | .port =>
      match Text.readInteger? argument with
      | some port => pure { options with port := port }
      | none => throw (.notInteger argument)
    | .reload => pure { options with reload := true }
    | _ => pure options
  wantsPlain _ := false
  takePlain options _ := options

/-- What the command that evaluates has been given so far. -/
structure EvaluateDraft where
  formula : Option Text := none
  values : List Assignment := []
  staged : List Assignment := []
  keyed : List KeyedAssignment := []

/-- How the command that evaluates takes its flags and its formula. -/
def evaluatingTaking : Taking EvaluateDraft where
  reader := .evaluate
  takeFlag draft flag argument :=
    match flag with
    | .set => do
      let a ← (Assignment.ofText argument).mapError .assignment
      pure { draft with values := draft.values ++ [a] }
    | .stage => do
      let a ← (Assignment.ofText argument).mapError .assignment
      pure { draft with staged := draft.staged ++ [a] }
    | .key => do
      let a ← (KeyedAssignment.ofText argument).mapError .assignment
      pure { draft with keyed := draft.keyed ++ [a] }
    | _ => pure draft
  wantsPlain draft := draft.formula.isNone
  takePlain draft word := { draft with formula := some word }

/-- The command that serves, from its words. -/
def serveCommand (settings : Settings) (texts : List Text) : Except Stop (Outcome Command) := do
  let outcome ← servingTaking.read { host := settings.host, port := settings.port } texts
  pure ⟨.serve outcome.options, outcome.leftOver⟩

/-- The command that evaluates, from its words. -/
def evaluateCommand (texts : List Text) : Except Stop (Outcome Command) := do
  let outcome ← evaluatingTaking.read {} texts
  match outcome.options with
  | ⟨some formula, values, staged, keyed⟩ =>
    pure ⟨.evaluate ⟨formula, values, staged, keyed⟩, outcome.leftOver⟩
  | _ => throw (.complaint ⟨.evaluate, .missing ["formula"]⟩)

/-- A command, from its name and its words. -/
def commandOfTexts (settings : Settings) : List Text → Except Stop (Outcome Command)
  | [] => pure ⟨.none, []⟩
  | name :: rest =>
    match commandReader? name with
    | some .serve => serveCommand settings rest
    | some .evaluate => evaluateCommand rest
    | _ => throw (.complaint ⟨.program, .unknownCommand name⟩)

/-! ## The program -/

/-- How the program takes its flags; its only option is the level of the log. -/
def programTaking : Taking Text where
  reader := .program
  takeFlag logLevel flag argument :=
    match flag with
    | .logLevel => pure argument
    | _ => pure logLevel
  wantsPlain _ := false
  takePlain logLevel _ := logLevel

/-- The words of the program itself, and those of the command, which begin at the first plain word,
a separator right before it included. The argument of a flag is no such word. -/
def splitAtCommand : Bool → List Word → List Word × List Text
  | _, [] => ([], [])
  | awaiting, word :: rest =>
    let further (awaiting : Bool) : List Word × List Text :=
      let (own, command) := splitAtCommand awaiting rest
      (word :: own, command)
    match word.role with
    | .plain => if awaiting then further false else ([], word.text :: rest.map Word.text)
    | .separator =>
      if awaiting || rest.isEmpty then further false else ([], word.text :: rest.map Word.text)
    | .unknown => further false
    | .flag s argument => further (s.flag.takesArgument && argument.isNone)

/-- What a command line asks for. -/
def invocation (settings : Settings) (texts : List Text) : Except Stop Invocation :=
  match words Reader.program.known texts with
  | .error ambiguity => throw (.complaint ⟨.program, .ambiguous ambiguity⟩)
  | .ok words => do
    let (own, rest) := splitAtCommand false words
    let outcome ← programTaking.scan none false settings.logLevel own
    let command ← commandOfTexts settings rest
    match outcome.leftOver ++ command.leftOver with
    | [] => pure ⟨outcome.options, command.options⟩
    | leftOver => throw (.complaint ⟨.program, .unrecognized leftOver⟩)

end Formulary.Cli
