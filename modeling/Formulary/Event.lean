/-
Formulary.Event — what happens on the way and is worth a line in the log.

Operations return the events they went through; turning an event into a log record is done here and
nowhere else. A record has a level, the channel it belongs to, and its text. Things that went as
they may are for debugging; a formula that could not be evaluated is a warning.
-/
import Formulary.Replacement
import Formulary.Text.Basic

namespace Formulary

/-- The level of a log record. -/
inductive Level
  | debug
  | warning
deriving DecidableEq, Repr

/-- The name of a level in log lines. -/
def Level.name : Level → String
  | .debug => "DEBUG"
  | .warning => "WARNING"

/-- The severity of a level as a number. -/
def Level.severity : Level → Nat
  | .debug => 10
  | .warning => 30

/-- The names by which a least severity can be asked for. -/
def severityNames : List (String × Nat) :=
  [("CRITICAL", 50), ("FATAL", 50), ("ERROR", 40), ("WARN", 30), ("WARNING", 30), ("INFO", 20),
    ("DEBUG", 10), ("NOTSET", 0)]

/-- The severity that a name stands for. -/
def severity? (name : Text) : Option Nat :=
  (severityNames.find? fun entry => entry.1.toList == name).map fun entry => entry.2

/-- What happened: filters and templates are given as diagnostics show them. -/
inductive Event
  | replacementRejected (replacement : Option Text) (token : Text)
  | keyUnresolved (key token : Text)
  | filterApplied (filter template : Text)
  | evaluating (source : Text)
  | formulaFailed (formula filters : Text)
  | failureReported (summary : Text)
  | filtersBuilt (count : Nat) (filters : Text)

namespace Event

/-- How severe the event is. -/
def level : Event → Level
  | .formulaFailed .. => .warning
  | .failureReported _ => .warning
  | _ => .debug

/-- The channel that the event is logged on. -/
def channel : Event → String
  | .replacementRejected .. => "statformula.filters.replacer"
  | .keyUnresolved .. => "statformula.filters.keyed"
  | .filterApplied .. => "statformula.formula.parser"
  | .evaluating _ => "statformula.formula.evaluator"
  | .formulaFailed .. => "statformula.formula.parser"
  | .failureReported _ => "statformula.formula.parser"
  | .filtersBuilt .. => "statformula.formula.builder"

/-- The text of the log record. -/
def message : Event → Text
  | .replacementRejected replacement token =>
    "Rejected replacement ".toList ++ Replacement.shown replacement ++ " for ".toList
      ++ Text.quoted token
  | .keyUnresolved key token =>
    "No replacement for key ".toList ++ Text.quoted key ++ " of ".toList ++ Text.quoted token
  | .filterApplied filter template => filter ++ " -> ".toList ++ template
  | .evaluating source => "Evaluating ".toList ++ Text.quoted source
  | .formulaFailed formula filters =>
    "An error occurred while parsing formula ".toList ++ formula ++ " with filters: ".toList
      ++ filters
  | .failureReported summary => summary
  | .filtersBuilt count filters => (s!"Built {count} filters: ").toList ++ filters

/-- The line of the log record, with a stamp for the time in front. -/
def line (stamp : Text) (event : Event) : Text :=
  stamp ++ [' '] ++ event.level.name.toList ++ [' '] ++ event.channel.toList ++ ": ".toList
    ++ event.message

/-- The events that are at least as severe. -/
def atLeast (severity : Nat) (events : List Event) : List Event :=
  events.filter fun event => severity ≤ event.level.severity

end Event

end Formulary
