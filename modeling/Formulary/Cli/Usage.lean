/-
Formulary.Cli.Usage — what can be wrong with a command line.

A complaint comes from the program or from one of its commands, and is reported in one line behind
the name of the one that complains. Complaints about an argument name it.
-/
import Formulary.Cli.Assignment
import Formulary.Cli.Flag

namespace Formulary.Cli

/-- Who reads a part of the command line. -/
inductive Reader
  | program
  | serve
  | evaluate
deriving DecidableEq, Repr

namespace Reader

/-- The name under which a reader complains. -/
def name : Reader → String
  | .program => "statformula"
  | .serve => "statformula serve"
  | .evaluate => "statformula eval"

/-- The flags that a reader knows. -/
def flags : Reader → List Flag
  | .program => [.help, .logLevel]
  | .serve => [.help, .host, .port, .reload]
  | .evaluate => [.help, .set, .stage, .key]

/-- The spellings that a reader knows. -/
def known (r : Reader) : List Spelling :=
  spellingsOf r.flags

end Reader

/-- The names of the commands. -/
def commandNames : List (String × Reader) :=
  [("serve", .serve), ("eval", .evaluate)]

/-- The reader of the command with the given name. -/
def commandReader? (name : Text) : Option Reader :=
  (commandNames.find? fun c => c.1.toList == name).map fun c => c.2

/-- What is wrong with an argument. -/
inductive ArgumentFault
  | expected
  | ignored (argument : Text)
  | notInteger (argument : Text)
  | assignment (error : AssignmentError)

/-- A fault in words. -/
def ArgumentFault.message : ArgumentFault → Text
  | .expected => "expected one argument".toList
  | .ignored argument => "ignored explicit argument ".toList ++ Text.quoted argument
  | .notInteger argument => "invalid int value: ".toList ++ Text.quoted argument
  | .assignment error => error.message

/-- What is wrong with a command line. -/
inductive Fault
  | ambiguous (ambiguity : Ambiguity)
  | unrecognized (words : List Text)
  | missing (names : List String)
  | unknownCommand (word : Text)
  | argument (flag : Flag) (fault : ArgumentFault)

/-- A fault in words. -/
def Fault.message : Fault → Text
  | .ambiguous a =>
    "ambiguous option: ".toList ++ a.word ++ " could match ".toList
      ++ Text.join ", ".toList a.candidates
  | .unrecognized words => "unrecognized arguments: ".toList ++ Text.join [' '] words
  | .missing names =>
    "the following arguments are required: ".toList
      ++ Text.join ", ".toList (names.map String.toList)
  | .unknownCommand word =>
    "argument command: invalid choice: ".toList ++ Text.quoted word ++ " (choose from ".toList
      ++ Text.join ", ".toList (commandNames.map fun c => Text.quoted c.1.toList) ++ [')']
  | .argument flag fault =>
    "argument ".toList ++ flag.label.toList ++ ": ".toList ++ fault.message

/-- A complaint of a reader. -/
structure Complaint where
  reader : Reader
  fault : Fault

/-- The line that reports a complaint. -/
def Complaint.line (c : Complaint) : Text :=
  c.reader.name.toList ++ ": error: ".toList ++ c.fault.message

end Formulary.Cli
