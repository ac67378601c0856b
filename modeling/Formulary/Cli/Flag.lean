/-
Formulary.Cli.Flag — flags, and what the words of a command line are.

The program and its two commands each know some flags. A word is a flag when it is spelled like one,
in full, by an unambiguous beginning, or with its argument behind an equals sign; everything else
that begins with a dash is an unknown flag, unless it is a negative number or holds a blank. Behind
the separator every word is plain. All words are looked at before anything else is done, so an
ambiguous one is reported first.
-/
import Formulary.Text.Basic
import Formulary.Text.Digit

namespace Formulary.Cli

/-- The flags. -/
inductive Flag
  | help
  | logLevel
  | host
  | port
  | reload
  | set
  | stage
  | key
deriving DecidableEq, Repr

namespace Flag

/-- How a flag is spelled. -/
def spellings : Flag → List String
  | .help => ["-h", "--help"]
  | .logLevel => ["--log-level"]
  | .host => ["--host"]
  | .port => ["--port"]
  | .reload => ["--reload"]
  | .set => ["--set"]
  | .stage => ["--stage"]
  | .key => ["--key"]

/-- Whether a flag takes an argument. -/
def takesArgument : Flag → Bool
  | .help => false
  | .reload => false
  | _ => true

/-- A flag as diagnostics name it: all its spellings. -/
def label (f : Flag) : String :=
  String.intercalate "/" f.spellings

end Flag

/-- A spelling of a flag. -/
structure Spelling where
  spelled : Text
  flag : Flag

/-- All spellings of flags. -/
def spellingsOf (flags : List Flag) : List Spelling :=
  flags.flatMap fun f => f.spellings.map fun s => ⟨s.toList, f⟩

/-- What a word of the command line is. A flag may bring its argument along. -/
inductive Role
  | plain
  | separator
  | unknown
  | flag (spelling : Spelling) (argument : Option Text)

/-- A word of the command line with its role. -/
structure Word where
  text : Text
  role : Role

/-- A word that could be several flags. -/
structure Ambiguity where
  word : Text
  candidates : List Text

/-- The word that ends the flags. -/
def separatorText : Text := ['-', '-']

/-- Whether a text is all decimal digits. -/
def areDigits (t : Text) : Bool :=
  t.all fun c => (Text.digitValue? c).isSome

/-- Whether a word is a negative number, with or without a fraction; a line may end behind it. -/
def isNegativeNumber : Text → Bool
  | '-' :: rest =>
    let number := if rest.getLast? == some '\n' then rest.dropLast else rest
    match Text.cutAtFirst? '.' number with
    | none => !number.isEmpty && areDigits number
    | some (whole, fraction) => areDigits whole && !fraction.isEmpty && areDigits fraction
  | _ => false

/-- A word cut into a spelling and an argument behind the first equals sign. -/
def cutArgument (t : Text) : Text × Option Text :=
  match Text.cutAtFirst? '=' t with
  | some (spelled, argument) => (spelled, some argument)
  | none => (t, none)

/-- The flags that a word could abbreviate: a long one by its beginning, a short one with its
argument right behind it. -/
def abbreviated (known : List Spelling) (t : Text) : List (Spelling × Option Text) :=
  if separatorText.isPrefixOf t then
    let (beginning, argument) := cutArgument t
    (known.filter fun s => beginning.isPrefixOf s.spelled).map fun s => (s, argument)
  else
    (known.filter fun s => s.spelled == t.take 2).map fun s => (s, some (t.drop 2))

/-- The flag that is spelled exactly so. -/
def spelling? (known : List Spelling) (t : Text) : Option Spelling :=
  known.find? fun s => s.spelled == t

/-- The flag that a word names exactly, alone or before an equals sign. -/
def named? (known : List Spelling) (t : Text) : Option (Spelling × Option Text) :=
  match spelling? known t with
  | some s => some (s, none)
  | none =>
    match cutArgument t with
    | (spelled, some argument) => (spelling? known spelled).map fun s => (s, some argument)
    | (_, none) => none

/-- The role of a word that begins with a dash and is longer than that. -/
def dashedRole (known : List Spelling) (t : Text) : Except Ambiguity Role :=
  match named? known t with
  | some (s, argument) => pure (.flag s argument)
  | none =>
    match abbreviated known t with
    | [(s, argument)] => pure (.flag s argument)
    | [] => pure (if isNegativeNumber t || t.contains ' ' then .plain else .unknown)
    | several => throw ⟨t, several.map fun (s, _) => s.spelled⟩

/-- The role of a word before the separator. -/
def role (known : List Spelling) : Text → Except Ambiguity Role
  | '-' :: c :: rest => dashedRole known ('-' :: c :: rest)
  | _ => pure .plain

/-- The words of a command line with their roles. -/
def words (known : List Spelling) : List Text → Except Ambiguity (List Word)
  | [] => pure []
  | t :: rest =>
    if t = separatorText then
      pure (⟨t, .separator⟩ :: rest.map fun t => ⟨t, .plain⟩)
    else do
      let first ← role known t
      let more ← words known rest
      pure (⟨t, first⟩ :: more)

end Formulary.Cli
