/-
Formulary.Settings — the settings of the program.

Settings come from the environment, a variable for each, with defaults for those that are not set.
Only the whole numbers among them can be wrong. Settings can then be amended from a record, which is
checked as a whole.
-/
import Formulary.Expr.Eval
import Formulary.Schema.Basic

namespace Formulary

/-- The settings: where to serve, what to log, who may ask, and the limits of evaluation. -/
structure Settings where
  host : Text := "127.0.0.1".toList
  port : Int := 8000
  debug : Bool := false
  logLevel : Text := "INFO".toList
  allowedOrigins : List Text := [['*']]
  maxFormulaLength : Int := 10000
  maxExponent : Int := 1000

/-- Why a variable is no whole number. -/
inductive SettingsError
  | notInteger (text : Text)
  | tooManyDigits (count : Nat)

namespace SettingsError

/-- The kind of the error. -/
def name (_ : SettingsError) : String :=
  "ValueError"

/-- The report of the error. -/
def message : SettingsError → Text
  | .notInteger text => "invalid literal for int() with base 10: ".toList ++ Text.quoted text
  | .tooManyDigits count =>
    (s!"Exceeds the limit ({Schema.maxIntegerDigits} digits) for integer string conversion: "
      ++ s!"value has {count} digits; use sys.set_int_max_str_digits() to increase the limit").toList

end SettingsError

/-- The variables of the environment that settings are read from. -/
inductive Variable
  | host
  | port
  | debug
  | logLevel
  | allowedOrigins
  | maxFormulaLength
  | maxExponent
deriving DecidableEq, Repr

/-- The name of a variable. -/
def Variable.name : Variable → String
  | .host => "HOST"
  | .port => "PORT"
  | .debug => "DEBUG"
  | .logLevel => "LOG_LEVEL"
  | .allowedOrigins => "CORS_ALLOW_ORIGINS"
  | .maxFormulaLength => "MAX_FORMULA_LENGTH"
  | .maxExponent => "MAX_EXPONENT"

/-- All variables. -/
def Variable.all : List Variable :=
  [.host, .port, .debug, .logLevel, .allowedOrigins, .maxFormulaLength, .maxExponent]

/-- An environment: the texts of the variables that are set. -/
abbrev Environment := Variable → Option Text

namespace Settings

/-- The settings when nothing is set. -/
def standard : Settings := {}

/-- A whole number from a text. -/
def wholeOfText (t : Text) : Except SettingsError Int :=
  match Text.readInteger? t with
  | none => throw (.notInteger t)
  | some n =>
    let digits := t.countP fun c => (Text.digitValue? c).isSome
    if Schema.maxIntegerDigits < digits then throw (.tooManyDigits digits) else pure n

/-- A whole number from a variable that may not be set. -/
def wholeOr (absent : Int) : Option Text → Except SettingsError Int
  | none => pure absent
  | some t => wholeOfText t

/-- The origins of a variable, between commas; everybody if the variable is empty. -/
def originsOr (absent : List Text) : Option Text → List Text
  | some (c :: rest) => Text.fields ',' (c :: rest)
  | _ => absent

/-- The settings that an environment gives. -/
def ofEnvironment (environment : Environment) : Except SettingsError Settings := do
  let port ← wholeOr standard.port (environment .port)
  let maxFormulaLength ← wholeOr standard.maxFormulaLength (environment .maxFormulaLength)
  let maxExponent ← wholeOr standard.maxExponent (environment .maxExponent)
  pure
    { host := (environment .host).getD standard.host
      port := port
      debug := Text.asciiLowercase ((environment .debug).getD []) == "true".toList
      logLevel := ((environment .logLevel).map Text.uppercase).getD standard.logLevel
      allowedOrigins := originsOr standard.allowedOrigins (environment .allowedOrigins)
      maxFormulaLength := maxFormulaLength
      maxExponent := maxExponent }

/-- The settings with the fields of a record in place. -/
def amended (settings : Settings) (fields : Schema.Fields) : Schema.Checked Settings :=
  Settings.mk
    <$> Schema.optional fields "host" Schema.text settings.host
    <*> Schema.optional fields "port" Schema.integer settings.port
    <*> Schema.optional fields "debug" Schema.truth settings.debug
    <*> Schema.optional fields "log_level" Schema.text settings.logLevel
    <*> Schema.optional fields "cors_allow_origins" (Schema.list Schema.text)
      settings.allowedOrigins
    <*> Schema.optional fields "max_formula_length" Schema.integer settings.maxFormulaLength
    <*> Schema.optional fields "max_exponent" Schema.integer settings.maxExponent

/-- The limits of evaluation. -/
def limits (settings : Settings) : Limits where
  maxLength := settings.maxFormulaLength
  maxExponent := settings.maxExponent

end Settings

end Formulary
