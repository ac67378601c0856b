/-
Formulary.Failure — what can stop a substitution or an evaluation.

A failure is reported by its kind and a message. A replacer may fail in any way it likes; its
failure is passed on unchanged. The remaining ones are those of the evaluator, an operation on
something that does not have it, and a text operation on something that is no text.

The text of a failure is made when somebody asks for it, and making it may fail in its turn. So
`text` gives a text or another failure, and whoever reports a failure has to say what happens then.
-/
import Formulary.Expr.Eval
import Formulary.Value

namespace Formulary

/-- What stopped an operation. `raised` is a replacer's own failure with its one argument, if any;
`textless` is one of which no text can be made, because making it raises `instead`; `reported` is
one that brings its name and message along. -/
inductive Failure
  | raised (kind : String) (argument : Option Text)
  | textless (kind : String) (instead : Failure)
  | reported (name message : Text)
  | rejected (rejection : Rejection)
  | missingMember (kind member : String)
  | notText (kind : String)

namespace Failure

/-- The kind of a failure. -/
def name : Failure → Text
  | .raised kind _ => kind.toList
  | .textless kind _ => kind.toList
  | .reported name _ => name
  | .rejected rejection => rejection.name.toList
  | .missingMember .. => "AttributeError".toList
  | .notText _ => "TypeError".toList

/-- The text of a failure, or what is raised when it is asked for. A missing key is shown in
quotes. -/
def text : Failure → Except Failure Text
  | .raised _ none => .ok []
  | .raised kind (some argument) =>
    .ok (if kind = "KeyError" then Text.quoted argument else argument)
  | .textless _ instead => .error instead
  | .reported _ message => .ok message
  | .rejected rejection => .ok rejection.message
  | .missingMember kind member => .ok (s!"'{kind}' object has no attribute '{member}'").toList
  | .notText kind => .ok (s!"expected string or bytes-like object, got '{kind}'").toList

/-- The kind and the text in one line, if there is a text. -/
def summary (failure : Failure) : Except Failure Text :=
  failure.text.map fun text => failure.name ++ ": ".toList ++ text

/-- What a display shows of a failure that nobody has taken: its text, or that there is none. -/
def message (failure : Failure) : Text :=
  match failure.text with
  | .ok text => text
  | .error _ => "<exception str() failed>".toList

/-- The failure to write an integer with too many digits. -/
def tooManyDigits : Failure :=
  .raised "ValueError" (some
    (s!"Exceeds the limit ({Number.maxDigits} digits) for integer string conversion; "
      ++ "use sys.set_int_max_str_digits() to increase the limit").toList)

end Failure

/-- A value as diagnostics show it, or the failure to write an integer in it. -/
def Value.display (value : Value) : Except Failure Text :=
  if value.hasText then .ok value.shown else .error .tooManyDigits

end Formulary
