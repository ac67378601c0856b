/-
Formulary.Rack — filters side by side, and the operations on them.

A rack is a list of filters, each known by its position. Operations address filters by position, so
the same filter can be used several times in one run and its state carries over from one use to the
next. A run goes through positions in order, every filter seeing the text that the one before it
left; the first failure ends the run and leaves the rack in the state that it had reached.
-/
import Formulary.Filter.Basic

namespace Formulary

/-- Filters, by position. -/
abbrev Rack := List Filter

/-- What can stand where a filter is expected: a filter, by its position, or a list of such things,
which is no filter. -/
inductive Selection
  | filter (position : Nat)
  | group (members : List Selection)

namespace Selection

mutual

/-- A selection as diagnostics show it. -/
def shown (rack : Rack) : Selection → Text
  | .filter position => ((rack[position]?).map Filter.shown).getD []
  | .group members => '[' :: shownMembers rack members ++ [']']

/-- Selections as diagnostics show them, with commas between. -/
def shownMembers (rack : Rack) : List Selection → Text
  | [] => []
  | [s] => shown rack s
  | s :: rest => shown rack s ++ ", ".toList ++ shownMembers rack rest

end

/-- The filters that the arguments of a run name: several arguments are taken as they are, a single
list stands for its members. -/
def flatten : List Selection → List Selection
  | [.group members] => members
  | selections => selections

/-- The filters at the given positions, as arguments of their own. -/
def ofPositions (positions : List Nat) : List Selection :=
  positions.map .filter

end Selection

/-- The outcome of an operation on a rack. -/
structure Run (α : Type) where
  result : Except Failure α
  rack : Rack
  events : List Event

namespace Rack

/-- All positions of a rack. -/
def positions (rack : Rack) : List Nat :=
  List.range rack.length

/-- Apply the filter at a position to a template. -/
def applyAt (rack : Rack) (position : Nat) (template : Text) : Run Text :=
  match rack[position]? with
  | none => { result := .ok template, rack := rack, events := [] }
  | some f =>
    let a := f.apply template
    { result := a.result, rack := rack.set position a.filter, events := a.events }

/-- Apply selected filters to a template, one after another. -/
def applyAll (rack : Rack) : List Selection → Text → Run Text
  | [], template => { result := .ok template, rack := rack, events := [] }
  | .group _ :: _, _ =>
    { result := .error (.missingMember "list" "apply"), rack := rack, events := [] }
  | .filter position :: rest, template =>
    let first := rack.applyAt position template
    match first.result with
    | .error failure => { result := .error failure, rack := first.rack, events := first.events }
    | .ok text =>
      let applied : Event :=
        .filterApplied (Selection.shown first.rack (.filter position)) (Text.quoted text)
      let more := applyAll first.rack rest text
      { more with events := first.events ++ applied :: more.events }

/-- The text that a run over the whole rack gives. -/
def substitute (rack : Rack) (template : Text) : Run Text :=
  rack.applyAll (Selection.ofPositions rack.positions) template

/-- Apply selected filters to a value that is no text. It is shown after every filter, which fails
if it cannot be shown. -/
def applyAllForeign (rack : Rack) : List Selection → Value → Run Unit
  | [], _ => { result := .ok (), rack := rack, events := [] }
  | .group _ :: _, _ =>
    { result := .error (.missingMember "list" "apply"), rack := rack, events := [] }
  | .filter position :: rest, value =>
    match rack[position]? with
    | none => applyAllForeign rack rest value
    | some f =>
      let a := f.applyForeign value.kind
      let rack := rack.set position a.filter
      match a.result.bind fun _ => value.display with
      | .error failure => { result := .error failure, rack := rack, events := a.events }
      | .ok shown =>
        let applied : Event := .filterApplied a.filter.shown shown
        let more := applyAllForeign rack rest value
        { more with events := a.events ++ applied :: more.events }

/-! ## Operations on single filters -/

/-- An operation on the filter at a position. -/
inductive Operation
  | apply (template : Text)
  | stage (value : Value)
  | hasStaged
  | fetchStaged
  | setReplacer (replacer : Option Replacer)

/-- What an operation gives back. -/
inductive Reply
  | text (t : Text)
  | truth (b : Bool)
  | done

/-- The name by which diagnostics call an operation that only overridable filters have. -/
def Operation.member : Operation → String
  | .stage _ => "set_staged_replacement"
  | .hasStaged => "has_staged_replacement"
  | .fetchStaged => "fetch_staged_replacement"
  | .apply _ => "apply"
  | .setReplacer _ => "replacer"

/-- What an operation of an overridable filter gives back, and the filter afterwards. A value that
has no text is not staged. -/
def stagingStep (f : Filter) (token staged : Text) : Operation → Except Failure Reply × Filter
  | .stage value => if value.hasText then (.ok .done, f.stage value) else (.error .tooManyDigits, f)
  | .hasStaged => (.ok (.truth (!staged.isEmpty)), f)
  | .fetchStaged => (.ok (.text staged), { f with kind := .overridable token [] })
  | _ => (.ok .done, f)

/-- One operation on the filter at a position; the other filters stay as they are. -/
def perform (rack : Rack) (position : Nat) (operation : Operation) : Run Reply :=
  match rack[position]? with
  | none => { result := .ok .done, rack := rack, events := [] }
  | some f =>
    match operation with
    | .apply template =>
      let run := rack.applyAt position template
      { result := run.result.map .text, rack := run.rack, events := run.events }
    | .setReplacer replacer =>
      { result := .ok .done, rack := rack.set position (f.withReplacer replacer), events := [] }
    | operation =>
      match f.kind with
      | .overridable token staged =>
        let (result, f) := stagingStep f token staged operation
        { result := result, rack := rack.set position f, events := [] }
      | _ =>
        { result := .error (.missingMember f.kindName operation.member)
          rack := rack
          events := [] }

end Rack

end Formulary
