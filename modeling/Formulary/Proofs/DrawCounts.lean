/-
Formulary.Proofs.DrawCounts — a sampler draws a fixed number of times, or not at all.

A sampler checks everything before it draws. Here it is taken step by step instead: a check is made
where the step that needs it is taken, so a text checks its ranges again for every character and
elements are picked one by one, each from a list that has to hold one. Such an attempt could stop
after some draws. It never does: step by step, a sampler is the program that it gives after all
checks, or stops with the error that it gives in place of one. So a failed attempt leaves the source
of numbers where it was. A successful one takes as many numbers as were asked for, and each of what
comes out is made from the one number drawn for it.

Ranges may have any shape here, right or wrong, and bounds of any kind that cannot bound a range.
The one restriction is that two numbers which stand as bounds are integers (`AreIntegers`).
-/
import Formulary.Proofs.MergeBatches
import Formulary.Proofs.UniformText

namespace Formulary

/-! ## Attempts -/

/-- Why an attempt stops: an error, or a position behind all intervals. -/
inductive Stop
  | raised (error : SamplingError)
  | outside

/-- A program that may stop at any time between its draws. -/
inductive Attempt (α : Type)
  | done (result : α)
  | stop (reason : Stop)
  | draw (bound : Nat) (positive : 0 < bound) (next : Fin bound → Attempt α)

namespace Attempt

variable {α β : Type}

/-- Go on with the result of an attempt, if there is one. -/
def bind : Attempt α → (α → Attempt β) → Attempt β
  | .done result, f => f result
  | .stop reason, _ => .stop reason
  | .draw bound positive next, f => .draw bound positive fun i => (next i).bind f

/-- Make several attempts, one after another, until one of them stops. -/
def replicate : Nat → Attempt α → Attempt (List α)
  | 0, _ => .done []
  | n + 1, a => a.bind fun first => (replicate n a).bind fun rest => .done (first :: rest)

/-- Run an attempt on a source from which `taken` integers have been taken, giving the draws that
were made and how it ended. -/
def run (source : Source) : Nat → Attempt α → List Draw × Except Stop α
  | _, .done result => ([], .ok result)
  | _, .stop reason => ([], .error reason)
  | taken, .draw bound positive next =>
    let i := Drawing.reduce bound positive (source taken)
    let (draws, ending) := run source (taken + 1) (next i)
    (⟨bound, i⟩ :: draws, ending)

theorem bind_assoc {γ : Type} (a : Attempt α) (f : α → Attempt β) (g : β → Attempt γ) :
    (a.bind f).bind g = a.bind fun result => (f result).bind g := by
  induction a with
  | done | stop => rfl
  | draw bound positive next ih => simp only [bind, ih]

/-! ## Programs as attempts -/

/-- A program of draws, which never stops. -/
def ofDrawing : Drawing α → Attempt α
  | .done result => .done result
  | .draw bound positive next => .draw bound positive fun i => ofDrawing (next i)

/-- A sampler that has made all its checks: it stops at once, or never. -/
def ofSampler : Except SamplingError (Drawing α) → Attempt α
  | .error error => .stop (.raised error)
  | .ok drawing => ofDrawing drawing

theorem ofDrawing_bind (d : Drawing α) (f : α → Drawing β) :
    ofDrawing (d.bind f) = (ofDrawing d).bind fun result => ofDrawing (f result) := by
  induction d with
  | done result => rfl
  | draw bound positive next ih =>
    simp only [Drawing.bind, ofDrawing, bind, ih]

theorem ofDrawing_replicate (n : Nat) (d : Drawing α) :
    ofDrawing (d.replicate n) = (ofDrawing d).replicate n := by
  induction n with
  | zero => rfl
  | succ n ih =>
    rw [Drawing.replicate, replicate, ofDrawing_bind]
    simp only [ofDrawing_bind, ih]
    rfl

/-- A program makes the same draws as an attempt, and has its result. -/
theorem run_ofDrawing (source : Source) (taken : Nat) (d : Drawing α) :
    run source taken (ofDrawing d) = ((d.run source taken).1, .ok (d.run source taken).2) := by
  induction d generalizing taken with
  | done result => rfl
  | draw bound positive next ih => simp only [ofDrawing, run, Drawing.run, ih]

end Attempt

namespace Sampling

open Formulary.Interval (bound? laid noInterval ofPair ofValue ofValueList ofValues seek)

variable {α β : Type}

/-! ## Ranges of any shape -/

/-- A list of two values or a record with the two fields has bounds. -/
inductive HasBounds : Value → Value → Value → Prop
  | pair (low high : Value) : HasBounds (.list [low, high]) low high
  | record {fields : List (Text × Value)} {low high : Value}
      (hmin : (Value.record fields).field? "min" = some low)
      (hmax : (Value.record fields).field? "max" = some high) :
      HasBounds (.record fields) low high

/-- A value of the right shape: its bounds are integers. -/
def IsRange (range : Value) : Prop :=
  ∃ low high a b, HasBounds range low high ∧ bound? low = some a ∧ bound? high = some b

/-- Two numbers that stand as the bounds of a value are integers. A value without bounds, or with
bounds that are not both numbers, may be any. -/
def AreIntegers (range : Value) : Prop :=
  ∀ low high, HasBounds range low high → low.isNumber = true → high.isNumber = true →
    ∃ a b, bound? low = some a ∧ bound? high = some b

theorem ofValue_of_hasBounds {range low high : Value} (h : HasBounds range low high) :
    ofValue range = ofValues low high := by
  cases h with
  | pair => rfl
  | record hmin hmax => rw [ofValue, hmin, hmax]

theorem ofValues_eq_ok_iff {low high : Value} :
    (∃ x, ofValues low high = .ok x) ↔ ∃ a b, bound? low = some a ∧ bound? high = some b := by
  rw [ofValues]
  cases bound? low <;> cases bound? high <;>
    simp [pure, Except.pure, throw, throwThe, MonadExceptOf.throw]

/-- A list is a pair of values, or it is refused for its length. -/
theorem eq_pair_or_error (items : List Value) :
    (∃ low high, items = [low, high]) ∨
      ∃ error, ofPair items = .error error ∧ ∀ low high, error ≠ .notIntegers low high := by
  match items with
  | [] => exact .inr ⟨.tooFew 0, rfl, by simp⟩
  | [_] => exact .inr ⟨.tooFew 1, rfl, by simp⟩
  | [low, high] => exact .inl ⟨low, high, rfl⟩
  | _ :: _ :: _ :: _ => exact .inr ⟨.tooMany, rfl, by simp⟩

/-- A value without bounds is refused for its shape. -/
theorem hasBounds_or_error (range : Value) :
    (∃ low high, HasBounds range low high) ∨
      ∃ error, ofValue range = .error error ∧ ∀ low high, error ≠ .notIntegers low high := by
  cases range with
  | null | bool _ | int _ | float _ => exact .inr ⟨.notSeveral _, rfl, by simp⟩
  | list items =>
    rcases eq_pair_or_error items with ⟨low, high, rfl⟩ | hitems
    · exact .inl ⟨low, high, .pair low high⟩
    · exact .inr hitems
  | text t =>
    rcases eq_pair_or_error (t.map fun c => .text [c]) with ⟨low, high, hpair⟩ | hitems
    · -- The characters of the text are two, and texts are no bounds.
      obtain ⟨c, rest, rfl, rfl, hrest⟩ := List.map_eq_cons_iff.mp hpair
      obtain ⟨d, behind, rfl, rfl, -⟩ := List.map_eq_cons_iff.mp hrest
      rw [ofValue, hpair]
      exact .inr ⟨.notSubtracted "str", rfl, by simp⟩
    · exact .inr hitems
  | record fields =>
    cases hmin : (Value.record fields).field? "min" with
    | none => exact .inr ⟨.missingBound "min", by rw [ofValue, hmin]; rfl, by simp⟩
    | some low =>
      cases hmax : (Value.record fields).field? "max" with
      | none => exact .inr ⟨.missingBound "max", by rw [ofValue, hmin, hmax]; rfl, by simp⟩
      | some high => exact .inl ⟨low, high, .record hmin hmax⟩

/-- What is read as an interval is what has integers for its bounds. -/
theorem ofValue_eq_ok_iff {range : Value} : (∃ x, ofValue range = .ok x) ↔ IsRange range := by
  constructor
  · rintro ⟨x, hread⟩
    rcases hasBounds_or_error range with ⟨low, high, hbounds⟩ | ⟨error, herror, -⟩
    · rw [ofValue_of_hasBounds hbounds] at hread
      obtain ⟨a, b, hlow, hhigh⟩ := ofValues_eq_ok_iff.mp ⟨x, hread⟩
      exact ⟨low, high, a, b, hbounds, hlow, hhigh⟩
    · rw [herror] at hread
      cases hread
  · rintro ⟨low, high, a, b, hbounds, hlow, hhigh⟩
    rw [ofValue_of_hasBounds hbounds]
    exact ofValues_eq_ok_iff.mpr ⟨a, b, hlow, hhigh⟩

theorem ofValue_eq_error_iff {range : Value} :
    (∃ error, ofValue range = .error error) ↔ ¬IsRange range := by
  rw [← ofValue_eq_ok_iff]
  cases ofValue range <;> simp

theorem isNumber_of_noInterval {low high : Value} {first second : String}
    (h : noInterval low high = .notIntegers first second) :
    low.isNumber = true ∧ high.isNumber = true := by
  unfold noInterval at h
  split at h
  · cases h
  · cases h
  · split at h
    case isTrue hnumbers => exact Bool.and_eq_true_iff.mp hnumbers
    case isFalse => cases h

/-- Where two numbers stand as bounds and are integers, there is an interval. -/
theorem ofValue_ne_notIntegers {range : Value} (h : AreIntegers range) (first second : String) :
    ofValue range ≠ .error (.notIntegers first second) := by
  intro hread
  rcases hasBounds_or_error range with ⟨low, high, hbounds⟩ | ⟨error, herror, hshape⟩
  · rw [ofValue_of_hasBounds hbounds, ofValues] at hread
    split at hread
    · cases hread
    next hnone =>
      obtain ⟨hlow, hhigh⟩ := isNumber_of_noInterval (Except.error.inj hread)
      obtain ⟨a, b, ha, hb⟩ := h low high hbounds hlow hhigh
      exact hnone a b ha hb
  · exact hshape first second (Except.error.inj (herror.symm.trans hread))

/-- A value that is no range decides how the list that it heads is read. -/
theorem ofValueList_cons_of_error {range : Value} {error : RangeError}
    (h : ofValue range = .error error) (rest : List Value) :
    ofValueList (range :: rest) = .error error := by
  rw [ofValueList, h]
  rfl

/-- Behind a range, the rest of the list decides. -/
theorem ofValueList_cons_of_ok {range : Value} {x : Interval} (h : ofValue range = .ok x)
    (rest : List Value) : ofValueList (range :: rest) = (ofValueList rest).map (x :: ·) := by
  rw [ofValueList, h]
  cases ofValueList rest <;> rfl

/-- The first value that is no range decides the error. -/
theorem exists_of_ofValueList_eq_error {ranges : List Value} {error : RangeError}
    (h : ofValueList ranges = .error error) : ∃ range ∈ ranges, ofValue range = .error error := by
  induction ranges with
  | nil => cases h
  | cons range rest ih =>
    rw [List.exists_mem_cons_iff]
    cases hrange : ofValue range with
    | error first =>
      rw [ofValueList_cons_of_error hrange] at h
      cases h
      exact .inl rfl
    | ok x =>
      rw [ofValueList_cons_of_ok hrange] at h
      cases hrest : ofValueList rest with
      | error later =>
        rw [hrest] at h
        cases h
        exact .inr (ih hrest)
      | ok xs =>
        rw [hrest] at h
        cases h

/-- Reading ranges fails exactly if one of them, anywhere in the list, is no range. -/
theorem ofValueList_eq_error {ranges : List Value} :
    (∃ error, ofValueList ranges = .error error) ↔ ∃ range ∈ ranges, ¬IsRange range := by
  simp only [← ofValue_eq_error_iff]
  constructor
  · rintro ⟨error, hread⟩
    obtain ⟨range, hrange, herror⟩ := exists_of_ofValueList_eq_error hread
    exact ⟨range, hrange, error, herror⟩
  · induction ranges with
    | nil => simp
    | cons range rest ih =>
      intro hsome
      cases hrange : ofValue range with
      | error error => exact ⟨error, ofValueList_cons_of_error hrange rest⟩
      | ok x =>
        obtain ⟨other, hother, error, herror⟩ := hsome
        rcases List.mem_cons.mp hother with rfl | hmem
        · rw [hrange] at herror
          cases herror
        · obtain ⟨later, hlater⟩ := ih ⟨other, hmem, error, herror⟩
          exact ⟨later, by rw [ofValueList_cons_of_ok hrange, hlater]; rfl⟩

/-! ## Samplers step by step -/

namespace Stepwise

theorem toNat_pos_of_le {low high : Int} (h : low ≤ high) : 0 < (high - low + 1).toNat := by
  omega

/-- An integer between two bounds: they have to be in order, and then one number is drawn. -/
def between (low high : Int) : Attempt Int :=
  if h : low ≤ high then
    .draw (high - low + 1).toNat (toNat_pos_of_le h) fun i => .done (low + (i : Nat))
  else .stop (.raised (.reversedBounds low high))

/-- What a search has found, if it has not run out of intervals. -/
def settle : Option Int → Attempt Int
  | some value => .done value
  | none => .stop .outside

/-- A value of a union of ranges: the mode, whether there is a range, the ranges, a position, and
the search for it. -/
def fromValues (mode : Text) (ranges : List Value) : Attempt Int :=
  match SamplingMode.ofName? mode with
  | none => .stop (.raised (.unknownMode mode))
  | some mode =>
    if ranges.isEmpty then .stop (.raised .noRange)
    else
      match ofValueList ranges with
      | .error error => .stop (.raised (.badRange error))
      | .ok xs =>
        (between 0 (Interval.total (mode.arrange xs) - 1)).bind fun position =>
          settle (seek (mode.arrange xs) position)

/-- A text: a value of the ranges of the classes for each character. -/
def text (length : Int) (classes : CharacterClasses) : Attempt Text :=
  if classes.ranges.isEmpty then .stop (.raised .noCharacterClass)
  else
    .replicate length.toNat <|
      (fromValues SamplingMode.default.name.toList (written classes.ranges)).bind fun code =>
        .done (Char.ofNat code.toNat)

/-- One element of a list, which has to hold one. -/
def element (items : List α) : Attempt α :=
  if h : 0 < items.length then .draw items.length h fun i => .done (items.get i)
  else .stop (.raised .noElement)

/-- Elements of a list, one pick for each. -/
def elements (items : List α) (count : Int) : Attempt (Picked α) :=
  if count < 1 then .done .nothing
  else if count = 1 then (element items).bind fun picked => .done (.one picked)
  else (Attempt.replicate count.toNat (element items)).bind fun picked => .done (.many picked)

end Stepwise

/-! ## All checks come first -/

theorem between_stepwise (low high : Int) :
    Stepwise.between low high = .ofSampler (between low high) := by
  rw [Stepwise.between, between]
  split <;> rfl

/-- Laying intervals out leaves none exactly if there was none. -/
theorem arrange_eq_nil (mode : SamplingMode) {xs : List Interval} :
    mode.arrange xs = [] ↔ xs = [] := by
  -- Every mode keeps the integers that are covered.
  have hcovered : ∀ v, (∃ x ∈ mode.arrange xs, v ∈ x) ↔ ∃ x ∈ xs, v ∈ x := by
    intro v
    cases mode with
    | default => rfl
    | sort => simp only [SamplingMode.arrange, Interval.mem_sorted]
    | combine => exact Interval.exists_mem_merged
  have hlow : ∀ x : Interval, x.low ∈ x := fun x => ⟨Int.le_refl _, x.low_le_high⟩
  simp only [List.eq_nil_iff_forall_not_mem]
  constructor
  · intro h x hx
    obtain ⟨y, hy, -⟩ := (hcovered x.low).mpr ⟨x, hx, hlow x⟩
    exact h y hy
  · intro h x hx
    obtain ⟨y, hy, -⟩ := (hcovered x.low).mp ⟨x, hx, hlow x⟩
    exact h y hy

theorem fromRanges_nil (mode : SamplingMode) : fromRanges mode [] = .error .noRange := by
  rw [fromRanges, (arrange_eq_nil mode).mpr rfl]
  rfl

/-- Ranges are read as no intervals only if there are none. -/
theorem eq_nil_of_ofValueList {ranges : List Value} (h : ofValueList ranges = .ok []) :
    ranges = [] := by
  cases ranges with
  | nil => rfl
  | cons range rest =>
    cases hrange : ofValue range with
    | error error =>
      rw [ofValueList_cons_of_error hrange] at h
      cases h
    | ok x =>
      rw [ofValueList_cons_of_ok hrange] at h
      cases hrest : ofValueList rest with
      | error error =>
        rw [hrest] at h
        cases h
      | ok xs =>
        rw [hrest] at h
        cases h

/-- Drawing a position and searching for it is drawing a value. -/
theorem fromPosition_stepwise {xs : List Interval} (hne : xs ≠ []) :
    ((Stepwise.between 0 (Interval.total xs - 1)).bind fun position =>
        Stepwise.settle (seek xs position))
      = .ofSampler (fromLayout xs) := by
  obtain ⟨positive, hlayout⟩ := fromLayout_eq hne
  have hfound := fromPosition_eq positive
  rw [fromPosition] at hfound
  rw [hlayout, between_stepwise]
  cases hposition : between 0 (Interval.total xs - 1) with
  | error error =>
    rw [hposition] at hfound
    cases hfound
  | ok position =>
    rw [hposition] at hfound
    have hsearched : position.bind (fun position => .done (seek xs position))
        = (Drawing.single _ positive (laid xs).get).bind fun value => .done (some value) :=
      Except.ok.inj hfound
    have hstepwise := congrArg
      (fun searched => (Attempt.ofDrawing searched).bind Stepwise.settle) hsearched
    simp only [Attempt.ofDrawing_bind, Attempt.bind_assoc] at hstepwise
    exact hstepwise

theorem fromValues_stepwise (mode : Text) (ranges : List Value) :
    Stepwise.fromValues mode ranges = .ofSampler (fromValues mode ranges) := by
  rw [Stepwise.fromValues, fromValues]
  cases SamplingMode.ofName? mode with
  | none => rfl
  | some known =>
    simp only
    split
    case isTrue hnone =>
      obtain rfl := List.isEmpty_iff.mp hnone
      exact (congrArg Attempt.ofSampler (fromRanges_nil known)).symm
    case isFalse hsome =>
      cases hread : ofValueList ranges with
      | error error => rfl
      | ok xs =>
        refine fromPosition_stepwise fun hnothing => hsome ?_
        obtain rfl := (arrange_eq_nil known).mp hnothing
        exact List.isEmpty_iff.mpr (eq_nil_of_ofValueList hread)

/-- The value of the ranges of the classes is the code point of a character. -/
theorem fromValues_written {xs : List Interval} (hne : xs ≠ []) :
    ∃ positive : 0 < (laid xs).length,
      fromValues SamplingMode.default.name.toList (written xs)
        = .ok (.single (laid xs).length positive (laid xs).get) := by
  obtain ⟨positive, hlayout⟩ := fromLayout_eq hne
  refine ⟨positive, ?_⟩
  have hmode : SamplingMode.ofName? SamplingMode.default.name.toList = some .default := rfl
  rw [fromValues, hmode]
  simp only [ofValueList_of_denotes (denotes_written xs)]
  exact hlayout

theorem text_stepwise (length : Int) (classes : CharacterClasses) :
    Stepwise.text length classes = .ofSampler (text length classes) := by
  rw [Stepwise.text]
  split
  case isTrue hnone =>
    rw [text, List.isEmpty_iff.mp hnone]
    rfl
  case isFalse hsome =>
    have hne : classes.ranges ≠ [] := fun hnone => hsome (List.isEmpty_iff.mpr hnone)
    have hlength : text length classes = text length.toNat classes := by
      rw [text, text, Int.toNat_natCast]
    obtain ⟨positive, htext⟩ := text_eq hne length.toNat
    obtain ⟨_, hvalue⟩ := fromValues_written hne
    have hletter : (Attempt.ofSampler (fromValues SamplingMode.default.name.toList
          (written classes.ranges))).bind (fun code => .done (Char.ofNat code.toNat))
        = .ofDrawing (.single (laid classes.ranges).length positive (letterAt classes)) := by
      rw [hvalue]
      rfl
    rw [fromValues_stepwise, hletter, ← Attempt.ofDrawing_replicate, Drawing.replicate_single,
      hlength, htext]
    rfl

theorem element_stepwise (items : List α) :
    Stepwise.element items = .ofSampler (element items) := by
  rw [Stepwise.element, element]
  split <;> rfl

theorem elements_stepwise (items : List α) (count : Int) :
    Stepwise.elements items count = .ofSampler (elements items count) := by
  rw [Stepwise.elements, elements, element_stepwise]
  split
  case isTrue => rfl
  case isFalse hcount =>
    obtain ⟨more, hmore⟩ : ∃ more, count.toNat = more + 1 := ⟨count.toNat - 1, by omega⟩
    cases element items with
    | error error =>
      rw [hmore]
      split <;> rfl
    | ok one =>
      split
      case isTrue => exact (Attempt.ofDrawing_bind one fun picked => .done (Picked.one picked)).symm
      case isFalse =>
        rw [Attempt.ofSampler, ← Attempt.ofDrawing_replicate]
        exact (Attempt.ofDrawing_bind (one.replicate count.toNat) fun picked =>
          .done (Picked.many picked)).symm

/-! ## How often is drawn -/

/-- The elements that were picked. -/
def Picked.elements : Picked α → List α
  | .nothing => []
  | .one element => [element]
  | .many elements => elements

/-- The attempt stops with an error, and nothing has been drawn. -/
def RaisesAtOnce (attempt : Attempt β) : Prop :=
  ∃ error, ∀ source taken, attempt.run source taken = ([], .error (.raised error))

/-- The attempt makes `n` draws and does not fail, and each of what comes out is made from the draw
at the same place. -/
def DrawsEach (attempt : Attempt β) (outputs : β → List α) (n : Nat) : Prop :=
  ∃ make : Draw → Option α, ∀ source taken, ∃ draws result,
    attempt.run source taken = (draws, .ok result) ∧ draws.length = n ∧
      (outputs result).map some = draws.map make

/-- What a sampler costs: step by step it is the program behind all checks, it raises when it has to
and then without a draw, and else it makes a fixed number of draws. -/
structure Accounted (attempt : Attempt β) (sampler : Except SamplingError (Drawing β))
    (outputs : β → List α) (raises : Prop) (n : Nat) : Prop where
  /-- All checks could be made beforehand. -/
  program : attempt = .ofSampler sampler
  /-- The source is untouched where the sampler raises. -/
  raised : raises → RaisesAtOnce attempt
  /-- Otherwise the number of draws is known, and every output has its own one. -/
  drawn : ¬raises → DrawsEach attempt outputs n

theorem raisesAtOnce (error : SamplingError) :
    RaisesAtOnce (.ofSampler (.error error) : Attempt β) :=
  ⟨error, fun _ _ => rfl⟩

theorem drawsEach_done {result : β} {outputs : β → List α} (h : outputs result = []) :
    DrawsEach (.done result) outputs 0 :=
  ⟨fun _ => none, fun _ _ => ⟨[], result, rfl, rfl, by rw [h]; rfl⟩⟩

/-- A sequence of draws whose outputs are made one from each. -/
theorem drawsEach_sequence {bound n : Nat} {positive : 0 < bound} {outputs : β → List α}
    (f : Fin bound → α) (result : (Fin n → Fin bound) → β)
    (h : ∀ numbers, outputs (result numbers) = List.ofFn fun k => f (numbers k)) :
    DrawsEach (.ofDrawing (.sequence bound positive n result)) outputs n := by
  let numbers (source : Source) (taken : Nat) (k : Fin n) : Fin bound :=
    Drawing.reduce bound positive (source (taken + k))
  refine ⟨fun d => if hd : d.value < bound then some (f ⟨d.value, hd⟩) else none,
    fun source taken => ⟨List.ofFn fun k => ⟨bound, numbers source taken k⟩,
      result (numbers source taken), ?_, List.length_ofFn, ?_⟩⟩
  · rw [Attempt.run_ofDrawing, Drawing.run_sequence]
  · rw [h, List.map_ofFn, List.map_ofFn]
    congr 1
    funext k
    simp [numbers]

/-- A single draw whose output is made from it. -/
theorem drawsEach_single {bound : Nat} {positive : 0 < bound} (f : Fin bound → α) :
    DrawsEach (.ofSampler (.ok (.single bound positive f))) (fun value => [value]) 1 :=
  drawsEach_sequence (n := 1) f (fun numbers => f (numbers 0)) fun _ => rfl

/-! ## The samplers -/

theorem accounted_between (low high : Int) :
    Accounted (Stepwise.between low high) (between low high) (fun value => [value]) (high < low)
      1 where
  program := between_stepwise low high
  raised := by
    intro hreversed
    rw [between_stepwise, between, dif_neg (Int.not_le.mpr hreversed)]
    exact raisesAtOnce _
  drawn := by
    intro hordered
    rw [between_stepwise, between, dif_pos (Int.not_lt.mp hordered)]
    exact drawsEach_single _

theorem accounted_fromValues (mode : Text) (ranges : List Value) :
    Accounted (Stepwise.fromValues mode ranges) (fromValues mode ranges) (fun value => [value])
      (SamplingMode.ofName? mode = none ∨ ranges = [] ∨ ∃ range ∈ ranges, ¬IsRange range) 1 where
  program := fromValues_stepwise mode ranges
  raised := by
    intro hfails
    obtain ⟨error, hraised⟩ : ∃ error, fromValues mode ranges = .error error := by
      rw [fromValues]
      cases hmode : SamplingMode.ofName? mode with
      | none => exact ⟨_, rfl⟩
      | some known =>
        rw [hmode, ← ofValueList_eq_error] at hfails
        rcases hfails with hunknown | hnothing | ⟨error, hread⟩
        · cases hunknown
        · rw [hnothing]
          exact ⟨_, fromRanges_nil known⟩
        · rw [hread]
          exact ⟨_, rfl⟩
    rw [fromValues_stepwise, hraised]
    exact raisesAtOnce error
  drawn := by
    intro hok
    rw [not_or, not_or, ← ofValueList_eq_error] at hok
    obtain ⟨hmode, hne, hranges⟩ := hok
    obtain ⟨known, hknown⟩ := Option.ne_none_iff_exists'.mp hmode
    obtain ⟨xs, hread⟩ : ∃ xs, ofValueList ranges = .ok xs := by
      cases hread : ofValueList ranges with
      | error error => exact absurd ⟨error, hread⟩ hranges
      | ok xs => exact ⟨xs, rfl⟩
    have hxs : known.arrange xs ≠ [] := by
      rw [Ne, arrange_eq_nil]
      rintro rfl
      exact hne (eq_nil_of_ofValueList hread)
    obtain ⟨positive, hlayout⟩ := fromLayout_eq hxs
    have hprogram : fromValues mode ranges
        = .ok (.single _ positive (laid (known.arrange xs)).get) := by
      rw [fromValues, hknown, hread]
      exact hlayout
    rw [fromValues_stepwise, hprogram]
    exact drawsEach_single _

/-- The error of a sampler from ranges is one of the sampler's. -/
theorem fromValues_ne_notIntegers {mode : Text} {ranges : List Value}
    (h : ∀ range ∈ ranges, AreIntegers range) (first second : String) :
    fromValues mode ranges ≠ .error (.badRange (.notIntegers first second)) := by
  intro hraised
  rw [fromValues] at hraised
  split at hraised
  · cases hraised
  split at hraised
  next hread =>
    cases hraised
    obtain ⟨range, hrange, herror⟩ := exists_of_ofValueList_eq_error hread
    exact ofValue_ne_notIntegers (h range hrange) first second herror
  next =>
    rw [fromRanges, fromLayout] at hraised
    split at hraised <;> cases hraised

theorem ranges_eq_nil_iff {classes : CharacterClasses} :
    classes.ranges = [] ↔
      classes.numbers = false ∧ classes.letters = false ∧ classes.special = false := by
  obtain ⟨numbers, letters, special⟩ := classes
  cases numbers <;> cases letters <;> cases special <;> simp [CharacterClasses.ranges]

theorem accounted_text (length : Int) (classes : CharacterClasses) :
    Accounted (Stepwise.text length classes) (text length classes) id
      (classes.numbers = false ∧ classes.letters = false ∧ classes.special = false)
      length.toNat where
  program := text_stepwise length classes
  raised := by
    intro hnone
    rw [text_stepwise, text, ranges_eq_nil_iff.mpr hnone]
    exact raisesAtOnce _
  drawn := by
    intro hsome
    obtain ⟨positive, htext⟩ := text_eq (mt ranges_eq_nil_iff.mp hsome) length.toNat
    have hlength : text length classes = text length.toNat classes := by
      rw [text, text, Int.toNat_natCast]
    rw [text_stepwise, hlength, htext]
    exact drawsEach_sequence (letterAt classes) _ fun _ => rfl

theorem accounted_elements (items : List α) (count : Int) :
    Accounted (Stepwise.elements items count) (elements items count) Picked.elements
      (1 ≤ count ∧ items = []) count.toNat where
  program := elements_stepwise items count
  raised := by
    rintro ⟨hcount, rfl⟩
    rw [elements_stepwise, elements, if_neg (Int.not_lt.mpr hcount)]
    exact raisesAtOnce _
  drawn := by
    intro hok
    rw [elements_stepwise, elements]
    by_cases hcount : count < 1
    case pos =>
      rw [if_pos hcount, Int.toNat_of_nonpos (by omega)]
      exact drawsEach_done rfl
    case neg =>
      have hlength : 0 < items.length :=
        List.length_pos_iff.mpr fun hnone => hok ⟨Int.not_lt.mp hcount, hnone⟩
      rw [if_neg hcount, element, dif_pos hlength]
      by_cases hone : count = 1
      case pos =>
        subst hone
        exact drawsEach_sequence (n := 1) (fun i => items[i])
          (fun numbers => Picked.one items[numbers 0]) fun _ => rfl
      case neg =>
        let one : Drawing α := .single items.length hlength fun i => items[i]
        have hmany : Picked.many <$> one.replicate count.toNat
            = Drawing.sequence items.length hlength count.toNat fun numbers =>
                .many (List.ofFn fun k => items[numbers k]) := by
          rw [Drawing.replicate_single]
          exact Drawing.sequence_bind count.toNat _ Picked.many
        simp only [pure, Except.pure, if_neg hone]
        rw [hmany]
        exact drawsEach_sequence (fun i => items[i]) _ fun _ => rfl

/-- **Samplers that fail leave the source where it was, and others move it by a fixed number of
draws.** Between two bounds, a reversed pair raises, and else one number is drawn. From ranges, an
unknown mode, no range or a range of the wrong shape anywhere in the list raises, and else one
number is drawn; two numbers that stand as bounds are integers, and then the error is always that of
a mode or a shape. A text without a character class raises, and else one number is drawn for each
character. Elements of an empty list raise if any are asked for, and else one number is drawn for
each. -/
theorem draws_accounted :
    (∀ low high : Int,
      Accounted (Stepwise.between low high) (between low high) (fun value => [value])
        (high < low) 1) ∧
    (∀ (mode : Text) (ranges : List Value), (∀ range ∈ ranges, AreIntegers range) →
      (∀ first second,
        fromValues mode ranges ≠ .error (.badRange (.notIntegers first second))) ∧
      Accounted (Stepwise.fromValues mode ranges) (fromValues mode ranges) (fun value => [value])
        (SamplingMode.ofName? mode = none ∨ ranges = [] ∨ ∃ range ∈ ranges, ¬IsRange range) 1) ∧
    (∀ (length : Int) (classes : CharacterClasses),
      Accounted (Stepwise.text length classes) (text length classes) id
        (classes.numbers = false ∧ classes.letters = false ∧ classes.special = false)
        length.toNat) ∧
    ∀ (α : Type) (items : List α) (count : Int),
      Accounted (Stepwise.elements items count) (elements items count) Picked.elements
        (1 ≤ count ∧ items = []) count.toNat :=
  ⟨accounted_between,
    fun mode ranges h => ⟨fromValues_ne_notIntegers h, accounted_fromValues mode ranges⟩,
    accounted_text, fun _ => accounted_elements⟩

/-- A pair in reverse and a record without its upper bound: the pair alone takes one draw, and the
record behind it makes the sampler raise before any. -/
theorem draws_accounted_missingBound :
    let pair : Value := .list [.int 9, .int 2]
    let record : Value := .record [("min".toList, .float 0.5)]
    AreIntegers pair ∧ AreIntegers record ∧
      DrawsEach (Stepwise.fromValues "sort".toList [pair]) (fun value => [value]) 1 ∧
      RaisesAtOnce (Stepwise.fromValues "sort".toList [pair, record]) := by
  intro pair record
  have hpair : AreIntegers (.list [.int 9, .int 2]) := by
    rintro low high ⟨⟩ - -
    exact ⟨9, 2, rfl, rfl⟩
  have hnone : ∀ low high, ¬HasBounds (.record [("min".toList, .float 0.5)]) low high := by
    intro low high hbounds
    cases hbounds with
    | record _ hmax => cases hmax
  have hrecord : AreIntegers record := fun low high hbounds => absurd hbounds (hnone low high)
  have hmode : SamplingMode.ofName? "sort".toList ≠ none := by decide
  have hrange : IsRange pair := ⟨_, _, 9, 2, .pair _ _, rfl, rfl⟩
  have hshape : ¬IsRange record := by
    rintro ⟨low, high, a, b, hbounds, -⟩
    exact hnone low high hbounds
  obtain ⟨-, hone⟩ := draws_accounted.2.1 "sort".toList [pair] (List.forall_mem_singleton.mpr hpair)
  obtain ⟨-, hboth⟩ := draws_accounted.2.1 "sort".toList [pair, record]
    (List.forall_mem_cons.mpr ⟨hpair, List.forall_mem_singleton.mpr hrecord⟩)
  refine ⟨hpair, hrecord, hone.drawn ?_, hboth.raised (.inr (.inr ⟨record, ?_, hshape⟩))⟩
  · rintro (hunknown | hempty | ⟨range, hmem, hbad⟩)
    · exact hmode hunknown
    · cases hempty
    · obtain rfl := List.mem_singleton.mp hmem
      exact hbad hrange
  · exact List.mem_cons_of_mem pair List.mem_cons_self

end Sampling

end Formulary
