/-
Formulary.Sampling.Basic — what can be sampled.

A sampler checks its arguments first and then gives a program of draws. Whatever is wrong with the
arguments is found before anything is drawn; a program, once there is one, cannot fail. Sampling
from a union of ranges makes one draw below the number of values and looks the value up; the mode
says how the ranges are laid out. A text draws once for each character, and picking elements draws
once for each element.
-/
import Formulary.Sampling.Drawing
import Formulary.Sampling.Merge
import Formulary.Sampling.Range

namespace Formulary

/-! ## Modes -/

/-- How ranges are laid out: as they are, in order, or merged so that every integer counts once. -/
inductive SamplingMode
  | default
  | sort
  | combine
deriving DecidableEq, Repr

namespace SamplingMode

/-- The name of a mode. -/
def name : SamplingMode → String
  | .default => "default"
  | .sort => "sort"
  | .combine => "combine"

/-- All modes. -/
def all : List SamplingMode :=
  [.default, .sort, .combine]

/-- The mode with the given name. -/
def ofName? (t : Text) : Option SamplingMode :=
  all.find? fun mode => mode.name.toList == t

/-- Intervals laid out for the mode. -/
def arrange : SamplingMode → List Interval → List Interval
  | .default, xs => xs
  | .sort, xs => Interval.sorted xs
  | .combine, xs => Interval.merged xs

end SamplingMode

/-! ## Errors -/

/-- Why nothing can be sampled. -/
inductive SamplingError
  | unknownMode (mode : Text)
  | noRange
  | badRange (error : RangeError)
  | reversedBounds (low high : Int)
  | noCharacterClass
  | noElement

namespace SamplingError

/-- The kind of the error. -/
def name : SamplingError → String
  | .badRange error => error.name
  | .noElement => "IndexError"
  | _ => "ValueError"

/-- The report of the error. -/
def message : SamplingError → Text
  | .unknownMode mode =>
    "Unknown sampling mode: ".toList ++ Text.quoted mode
      ++ " (expected one of ('default', 'sort', 'combine'))".toList
  | .noRange => "At least one range is required".toList
  | .badRange error => error.message.toList
  | .reversedBounds low high =>
    "empty range for randrange() (".toList ++ Number.intText low ++ ", ".toList
      ++ Number.intText (high + 1) ++ ", ".toList ++ Number.intText (high + 1 - low) ++ [')']
  | .noCharacterClass => "At least one character class must be enabled".toList
  | .noElement => "Cannot choose from an empty sequence".toList

end SamplingError

namespace Sampling

/-! ## Integers -/

/-- An integer between two bounds, both included. -/
def between (low high : Int) : Except SamplingError (Drawing Int) :=
  if h : low ≤ high then
    pure (Drawing.single (high - low + 1).toNat (by omega) fun i => low + (i : Nat))
  else throw (.reversedBounds low high)

/-- A value of intervals laid end to end. -/
def fromLayout (xs : List Interval) : Except SamplingError (Drawing Int) :=
  if h : 0 < Interval.total xs then
    pure (Drawing.single (Interval.total xs) h fun i => Interval.valueAt xs i i.isLt)
  else throw .noRange

/-- A value of a union of ranges. -/
def fromRanges (mode : SamplingMode) (xs : List Interval) : Except SamplingError (Drawing Int) :=
  fromLayout (mode.arrange xs)

/-- A value of a union of ranges, all as written: the mode is looked at first, then whether there is
a range at all, then the ranges from the left. -/
def fromValues (mode : Text) (ranges : List Value) : Except SamplingError (Drawing Int) :=
  match SamplingMode.ofName? mode with
  | none => throw (.unknownMode mode)
  | some mode =>
    match Interval.ofValueList ranges with
    | .error error => throw (.badRange error)
    | .ok xs => fromRanges mode xs

/-! ## Texts -/

/-- The character classes of a random text. -/
structure CharacterClasses where
  numbers : Bool := true
  letters : Bool := true
  special : Bool := false

/-- The code points of the classes. -/
def CharacterClasses.ranges (classes : CharacterClasses) : List Interval :=
  (if classes.numbers then [.ofBounds 48 57] else [])
    ++ (if classes.letters then [.ofBounds 65 90, .ofBounds 97 122] else [])
    ++ if classes.special then
        [.ofBounds 33 47, .ofBounds 58 64, .ofBounds 91 96, .ofBounds 123 126]
      else []

/-- A text of the given length; a negative length counts as none. -/
def text (length : Int) (classes : CharacterClasses) : Except SamplingError (Drawing Text) :=
  match fromLayout classes.ranges with
  | .error _ => throw .noCharacterClass
  | .ok one =>
    pure do
      let codes ← one.replicate length.toNat
      pure (codes.map fun code => Char.ofNat code.toNat)

/-! ## Elements -/

/-- What picking elements gives: nothing, a single element, or a list of them. -/
inductive Picked (α : Type)
  | nothing
  | one (element : α)
  | many (elements : List α)

/-- One element of a list. -/
def element {α : Type} (items : List α) : Except SamplingError (Drawing α) :=
  if h : 0 < items.length then pure (Drawing.single items.length h fun i => items[i])
  else throw .noElement

/-- As many elements of a list as asked for, each picked from the whole list. -/
def elements {α : Type} (items : List α) (count : Int) :
    Except SamplingError (Drawing (Picked α)) :=
  if count < 1 then pure (pure .nothing)
  else
    match element items with
    | .error error => throw error
    | .ok one =>
      if count = 1 then pure (.one <$> one)
      else pure (.many <$> one.replicate count.toNat)

end Sampling

end Formulary
