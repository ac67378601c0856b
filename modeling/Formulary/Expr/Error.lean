/-
Formulary.Expr.Error — why a formula has no value, and how that is reported.

Each way to fail is a constructor with the data of its report. A report has a name, which says what
kind of failure it is, and a message; both are given by one function each, so that the wording
stands in one place. Only what is said about malformed text is not decided here: a report carries
the complaint of whoever has read the text.
-/
import Formulary.Expr.Basic
import Formulary.Expr.Function

namespace Formulary

/-- Why an expression has no value. -/
inductive EvalError
  | notText (kind : String)
  | tooLong (length : Nat) (limit : Int)
  | malformed (complaint source : Text)
  | unsupportedLiteral (value : Literal)
  | literalTooLarge
  | unknownName (id : Text)
  | unknownFunction (id : Text)
  | unsupportedConstruct (label : String)
  | notPositional
  | exponentTooLarge (exponent : Float) (limit : Int)
  | function (failure : Function.Failure)

namespace Function

/-- The name under which argument counts are reported: functions of the mathematical library carry
its name, those of the calculator begin with an underscore. -/
def reportName : Function → String
  | .abs => "abs"
  | .ceil => "math.ceil"
  | .floor => "math.floor"
  | .round => "_round"
  | .sqrt => "math.sqrt"
  | .cbrt => "SafeEvaluator.<lambda>"
  | .exp => "math.exp"
  | .log => "_log"
  | .log2 => "math.log2"
  | .log10 => "math.log10"
  | .min => "min"
  | .max => "max"
  | .pow => "pow"
  | .sign => "_sign"
  | .sin => "math.sin"
  | .cos => "math.cos"
  | .tan => "math.tan"
  | .mod => "_mod"

/-- The parameters of a function that names them: the required ones, and how many are allowed. -/
def parameters? : Function → Option (List String × Nat)
  | .round => some (["x"], 2)
  | .log => some (["x"], 2)
  | .cbrt => some (["x"], 1)
  | .sign => some (["x"], 1)
  | .mod => some (["a", "b"], 2)
  | _ => none

/-- Parameter names in quotes, the last one joined by a word. -/
def nameList : List String → String
  | [] => ""
  | [a] => s!"'{a}'"
  | [a, b] => s!"'{a}' and '{b}'"
  | a :: rest => s!"'{a}', {nameList rest}"

/-- The report of a wrong number of arguments to a function that names its parameters: which of
them are missing, or how many are taken. -/
def namedCountMessage (reportName : String) (required : List String) (most count : Nat) :
    String :=
  if count < required.length then
    let missing := required.drop count
    let arguments := if missing.length = 1 then "argument" else "arguments"
    s!"{reportName}() missing {missing.length} required positional {arguments}: {nameList missing}"
  else
    let given := if count = 1 then "was" else "were"
    if required.length = most then
      let arguments := if most = 1 then "argument" else "arguments"
      s!"{reportName}() takes {most} positional {arguments} but {count} {given} given"
    else
      s!"{reportName}() takes from {required.length} to {most} positional arguments but {count} {given} given"

/-- The report of a wrong number of arguments. -/
def countMessage (f : Function) (count : Nat) : String :=
  match f.parameters? with
  | some (required, most) => namedCountMessage f.reportName required most count
  | none =>
    match f with
    | .pow => s!"pow expected 2 arguments, got {count}"
    | .min | .max => s!"{f.name} expected at least 1 argument, got {count}"
    | _ => s!"{f.reportName}() takes exactly one argument ({count} given)"

/-- The kind of a function's failure. -/
def Failure.name : Failure → String
  | .argumentCount .. => "TypeError"
  | .notSeveral => "TypeError"
  | .domain => "ValueError"
  | .range => "OverflowError"
  | .zeroLogarithm => "ZeroDivisionError"
  | .wholeOfInfinity => "OverflowError"
  | .wholeOfUndefined => "ValueError"
  | .places _ => "ValueError"

/-- The report of a function's failure. -/
def Failure.message : Failure → Text
  | .argumentCount f count => (f.countMessage count).toList
  | .notSeveral => "'float' object is not iterable".toList
  | .domain => "math domain error".toList
  | .range => "math range error".toList
  | .zeroLogarithm => "float division by zero".toList
  | .wholeOfInfinity => "cannot convert float infinity to integer".toList
  | .wholeOfUndefined => "cannot convert float NaN to integer".toList
  | .places digits =>
    (s!"number of decimals must be an integer from 0 to {maxPlaces}, got ").toList
      ++ Number.floatText digits

end Function

namespace EvalError

/-- The kind of a failure. -/
def name : EvalError → String
  | .notText _ => "TypeError"
  | .tooLong .. => "LimitExceeded"
  | .malformed .. => "SyntaxError"
  | .unsupportedLiteral _ => "TypeError"
  | .literalTooLarge => "OverflowError"
  | .unknownName _ => "UnknownSymbol"
  | .unknownFunction _ => "UnknownSymbol"
  | .unsupportedConstruct _ => "UnsupportedExpression"
  | .notPositional => "UnsupportedExpression"
  | .exponentTooLarge .. => "LimitExceeded"
  | .function failure => failure.name

/-- The report of a failure. -/
def message : EvalError → Text
  | .notText kind => ("expected a string, got " ++ kind).toList
  | .tooLong length limit => (s!"formula length {length} exceeds maximum of {limit}").toList
  | .malformed complaint source => complaint ++ " in ".toList ++ Text.quoted source
  | .unsupportedLiteral value => "unsupported literal ".toList ++ value.shown
  | .literalTooLarge => "int too large to convert to float".toList
  | .unknownName id => "Undefined symbol ".toList ++ [Text.doubleQuote] ++ id ++ [Text.doubleQuote]
  | .unknownFunction id =>
    "Undefined function ".toList ++ [Text.doubleQuote] ++ id ++ [Text.doubleQuote]
  | .unsupportedConstruct label => (label ++ " is not allowed").toList
  | .notPositional => "only positional arguments are allowed".toList
  | .exponentTooLarge exponent limit =>
    "exponent ".toList ++ Number.floatText exponent ++ (s!" exceeds maximum of {limit}").toList
  | .function failure => failure.message

end EvalError

end Formulary
