/-
Formulary.Filter.Basic — replacers, filters, and what applying a filter does.

A replacer answers calls; its answer may depend on the calls it has answered before. A filter pairs
a placeholder with a replacer. There are three kinds: one for a literal token, one for a literal
token whose replacement can be staged for a single use, and one for keyed placeholders. A filter
without a replacer leaves every template as it is and consumes nothing.

Applying a filter changes its state: a staged text is taken, or a call is added to the record. So
applying returns the filter as it is afterwards, also when the replacer failed.
-/
import Formulary.Event
import Formulary.Failure
import Formulary.Filter.Keyed

namespace Formulary

/-! ## Replacers -/

/-- A call of a replacer: without an argument, or with the key of a placeholder. -/
abbrev Call := Option Text

/-- A replacer answers a call with a value or fails. It may look at the calls that it has answered
before, oldest first. What it answers is written into a text at once, so an answer is a value that
has a text; one that has none counts as a failure of the call. -/
structure Replacer where
  answer : List Call → Call → Except Failure Value

namespace Replacer

/-- Always the same value. -/
def constant (value : Value) : Replacer where
  answer _ _ := .ok value

/-- The value that a table holds for the key; nothing for other keys. -/
def lookup (entries : List (Text × Value)) : Replacer where
  answer _ call :=
    match call with
    | some key => .ok (((entries.find? fun e => e.1 == key).map fun e => e.2).getD .null)
    | none => .ok .null

end Replacer

/-! ## Filters -/

/-- The kinds of filters. An overridable one holds the staged text, which is empty when nothing is
staged. -/
inductive FilterKind
  | literal (token : Text)
  | overridable (token staged : Text)
  | keyed (form : KeyedForm)

/-- A filter with the record of its replacer's calls. A replacer belongs to one filter: it is called
by no other filter and by nobody else, so the calls on record are all that it has answered. -/
structure Filter where
  kind : FilterKind
  replacer : Option Replacer
  calls : List Call := []

/-- The outcome of an operation on one filter. -/
structure Application (α : Type) where
  result : Except Failure α
  filter : Filter
  events : List Event

namespace Filter

/-- The token of literal filters that are not given another one. -/
def defaultToken : Text :=
  "\x7bplaceholder\x7d".toList

/-- The token of a filter. -/
def token (f : Filter) : Text :=
  match f.kind with
  | .literal token => token
  | .overridable token _ => token
  | .keyed form => form.token

/-- The staged text of a filter; only overridable filters have one. -/
def staged (f : Filter) : Text :=
  match f.kind with
  | .overridable _ staged => staged
  | _ => []

/-- The name of a filter's kind. -/
def kindName (f : Filter) : String :=
  match f.kind with
  | .literal _ => "ReplacerFilter"
  | .overridable .. => "OverridableFilter"
  | .keyed _ => "KeyedFilter"

/-- A filter as diagnostics show it. -/
def shown (f : Filter) : Text :=
  match f.kind with
  | .keyed form =>
    "KeyedFilter(token=".toList ++ Text.quoted form.token ++ ", syntax=".toList
      ++ Text.quoted (form.placeholder "key".toList) ++ [')']
  | _ => f.kindName.toList ++ "(token=".toList ++ Text.quoted f.token ++ [')']

/-! ## Staging -/

/-- Stage the text of a value, which has to have one, for the next use of an overridable filter. -/
def stage (f : Filter) (value : Value) : Filter :=
  match f.kind with
  | .overridable token _ => { f with kind := .overridable token value.toText }
  | _ => f

/-- The filter with nothing staged. -/
def unstaged (f : Filter) : Filter :=
  match f.kind with
  | .overridable token _ => { f with kind := .overridable token [] }
  | _ => f

/-- The filter with another replacer, or none; the record of calls begins anew. -/
def withReplacer (f : Filter) (replacer : Option Replacer) : Filter :=
  { f with replacer := replacer, calls := [] }

/-! ## Calling the replacer -/

/-- The filter with one more call on record. -/
def recorded (f : Filter) (call : Call) : Filter :=
  { f with calls := f.calls ++ [call] }

/-- The replacement for a literal token: the staged text if there is one, which is thereby taken;
otherwise what the replacer answers. -/
def fetchReplacement (f : Filter) (replacer : Replacer) : Application (Option Text) :=
  if f.staged.isEmpty then
    { result := (replacer.answer f.calls none).map Replacement.ofValue
      filter := f.recorded none
      events := [] }
  else
    { result := .ok (some f.staged), filter := f.unstaged, events := [] }

/-! ## Applying -/

/-- Put the replacement for every occurrence of the token, or note that it cannot be used. -/
def substitute (token : Text) (replacement : Option Text) (template : Text) : Text × List Event :=
  match Replacement.accepted? replacement with
  | some new => (Text.replaceAll token new template, [])
  | none => (template, [.replacementRejected replacement token])

/-- What going through the pieces of a template leads to: the new text, the calls on record and the
events. -/
structure Resolution where
  result : Except Failure Text
  calls : List Call
  events : List Event

/-- Go through the pieces of a template from the left. Every key that is not empty is looked up by
one call; the first call that fails ends the pass. A placeholder without a usable replacement stays
as it is. -/
def resolvePieces (form : KeyedForm) (replacer : Replacer) :
    List Call → List Piece → Resolution
  | calls, [] => ⟨.ok [], calls, []⟩
  | calls, .plain c :: rest =>
    let more := resolvePieces form replacer calls rest
    { more with result := more.result.map (c :: ·) }
  | calls, .keyed [] :: rest =>
    let more := resolvePieces form replacer calls rest
    { more with result := more.result.map (form.placeholder [] ++ ·) }
  | calls, .keyed key :: rest =>
    match replacer.answer calls (some key) with
    | .error failure => ⟨.error failure, calls ++ [some key], []⟩
    | .ok value =>
      let more := resolvePieces form replacer (calls ++ [some key]) rest
      match Replacement.accepted? (Replacement.ofValue value) with
      | some new => { more with result := more.result.map (new ++ ·) }
      | none =>
        { more with
          result := more.result.map (form.placeholder key ++ ·)
          events := .keyUnresolved key form.token :: more.events }

/-- Apply the filter to a template. -/
def apply (f : Filter) (template : Text) : Application Text :=
  match f.replacer with
  | none => { result := .ok template, filter := f, events := [] }
  | some replacer =>
    match f.kind with
    | .keyed form =>
      let resolution := resolvePieces form replacer f.calls (form.pieces template)
      { result := resolution.result
        filter := { f with calls := resolution.calls }
        events := resolution.events }
    | _ =>
      let fetched := f.fetchReplacement replacer
      match fetched.result with
      | .error failure => { result := .error failure, filter := fetched.filter, events := [] }
      | .ok replacement =>
        let (text, events) := substitute f.token replacement template
        { result := .ok text, filter := fetched.filter, events := events }

/-- Apply the filter to something that is no text, of the given kind. It stays as it is as long as
nothing has to be replaced in it. -/
def applyForeign (f : Filter) (kind : String) : Application Unit :=
  match f.replacer with
  | none => { result := .ok (), filter := f, events := [] }
  | some replacer =>
    match f.kind with
    | .keyed _ => { result := .error (.notText kind), filter := f, events := [] }
    | _ =>
      let fetched := f.fetchReplacement replacer
      match fetched.result with
      | .error failure => { result := .error failure, filter := fetched.filter, events := [] }
      | .ok replacement =>
        match Replacement.accepted? replacement with
        | some _ =>
          { result := .error (.missingMember kind "replace")
            filter := fetched.filter
            events := [] }
        | none =>
          { result := .ok ()
            filter := fetched.filter
            events := [.replacementRejected replacement f.token] }

end Filter

end Formulary
