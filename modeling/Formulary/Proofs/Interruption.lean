/-
Formulary.Proofs.Interruption — what a failing run has done to its filters, and what it has not.

A run goes through positions and stops at the first filter that raises. The same filter may stand at
several positions, and its state carries over from one to the next, so the state that a failure
leaves behind is not read off the positions one by one. It is the state behind a list of visits:
each visit is a position with the text that has come that far. `Passes` says that a run gets past
some positions and with which visits; the run that is interrupted has made these visits and the one
that raised, and no other. A filter then is what the applications to its own texts have made of it.

Evaluating a formula runs the filters once and never touches them again, so a failure, of a filter
or behind the filters, leaves them as the run did.
-/
import Formulary.Proofs.Diagnostics
import Formulary.Proofs.Staging

namespace Formulary

/-! ## Applications of one filter -/

namespace Filter

variable {f : Filter} {replacer : Replacer}

/-- The filter behind applications to these texts, one after another. -/
def appliedTo (f : Filter) (texts : List Text) : Filter :=
  texts.foldl (fun g text => (g.apply text).filter) f

/-- An application that raises leaves the kind of the filter, and with it what is staged, as it
was: what is staged does not raise. -/
theorem kind_of_apply_eq_error {text : Text} {failure : Failure}
    (h : (f.apply text).result = .error failure) :
    (f.apply text).filter.kind = f.kind ∧ (f.apply text).filter.replacer = f.replacer := by
  cases hreplacer : f.replacer with
  | none => rw [apply_idle hreplacer] at h; cases h
  | some replacer =>
    by_cases hkeyed : ∃ form, f.kind = .keyed form
    · obtain ⟨form, hkind⟩ := hkeyed
      rw [(apply_keyed hkind hreplacer text).2]
      exact ⟨rfl, hreplacer⟩
    · obtain ⟨hresult, hfilter⟩ := apply_unkeyed (not_exists.mp hkeyed) hreplacer text
      by_cases hstaged : f.staged = []
      · rw [hfilter, fetchReplacement_called hstaged]
        exact ⟨rfl, hreplacer⟩
      · rw [hresult, fetchReplacement_staged hstaged] at h
        cases h

theorem staged_unstaged (f : Filter) : f.unstaged.staged = [] := by
  cases hkind : f.kind <;> simp only [unstaged, staged, hkind]

theorem unstaged_of_staged_eq_nil (h : f.staged = []) : f.unstaged = f := by
  obtain ⟨kind, replacer, calls⟩ := f
  cases kind with
  | literal | keyed => rfl
  | overridable token staged =>
    obtain rfl : staged = [] := h
    rfl

/-- With nothing staged, every application of a filter for a literal token is one call. -/
theorem appliedTo_called (hkind : ∀ form, f.kind ≠ .keyed form) (hsome : f.replacer = some replacer)
    (hstaged : f.staged = []) (texts : List Text) :
    f.appliedTo texts = { f with calls := f.calls ++ List.replicate texts.length none } := by
  induction texts generalizing f with
  | nil => simp [appliedTo]
  | cons text texts ih =>
    have hfirst : (f.apply text).filter = f.recorded none := by
      rw [(apply_unkeyed hkind hsome text).2, fetchReplacement_called hstaged]
    have hrest := ih (f := f.recorded none) hkind hsome hstaged
    rw [appliedTo, List.foldl_cons, hfirst]
    refine hrest.trans ?_
    rw [recorded, List.append_assoc, List.singleton_append, List.length_cons, List.replicate_succ]

/-- A filter for a literal token that is applied at all has nothing staged afterwards. Every
application was one call, but for the first one if that took a staged text. -/
theorem appliedTo_unkeyed (hkind : ∀ form, f.kind ≠ .keyed form) (hreplacer : f.replacer ≠ none)
    {texts : List Text} (htexts : texts ≠ []) :
    f.appliedTo texts
      = { f.unstaged with
          calls := f.calls
            ++ List.replicate (texts.length - if f.staged = [] then 0 else 1) none } := by
  obtain ⟨replacer, hsome⟩ := Option.ne_none_iff_exists'.mp hreplacer
  by_cases hstaged : f.staged = []
  · rw [appliedTo_called hkind hsome hstaged, unstaged_of_staged_eq_nil hstaged, if_pos hstaged]
    rfl
  · obtain ⟨text, texts, rfl⟩ := List.exists_cons_of_ne_nil htexts
    have hfirst : (f.apply text).filter = f.unstaged := by
      rw [(apply_unkeyed hkind hsome text).2, fetchReplacement_staged hstaged]
    have hunstaged : (∀ form, f.unstaged.kind ≠ .keyed form) ∧ f.unstaged.replacer = some replacer ∧
        f.unstaged.calls = f.calls := by
      cases hf : f.kind with
      | keyed form => exact absurd hf (hkind form)
      | literal | overridable => simp [unstaged, hf, hsome]
    obtain ⟨hkind', hsome', hcalls⟩ := hunstaged
    rw [appliedTo, List.foldl_cons, hfirst, if_neg hstaged, List.length_cons, Nat.add_sub_cancel]
    exact (appliedTo_called hkind' hsome' f.staged_unstaged texts).trans (by rw [hcalls])

end Filter

namespace Rack

open Selection (ofPositions)

/-! ## Visits -/

/-- A filter, by its position, with a text that it is applied to. -/
structure Visit where
  position : Nat
  text : Text

/-- A visit as an operation. -/
def Visit.step (visit : Visit) : Step :=
  ⟨visit.position, .apply visit.text⟩

/-- The rack behind visits of its filters. -/
def visited (rack : Rack) (visits : List Visit) : Rack :=
  rack.after (visits.map Visit.step)

/-- The texts that the filter at a position is applied to. -/
def textsAt (position : Nat) (visits : List Visit) : List Text :=
  visits.filterMap fun visit => if visit.position = position then some visit.text else none

/-- A run gets past these positions: every filter gives a text, which the next one is applied to.
The visits are those that the run makes, and `last` is the text it comes out with. -/
inductive Passes : Rack → List Nat → Text → List Visit → Text → Prop
  | nil {rack : Rack} {text : Text} : Passes rack [] text [] text
  | cons {rack : Rack} {position : Nat} {positions : List Nat} {text new last : Text}
      {visits : List Visit} (hfirst : (rack.applyAt position text).result = .ok new)
      (hmore : Passes (rack.applyAt position text).rack positions new visits last) :
      Passes rack (position :: positions) text (⟨position, text⟩ :: visits) last

variable {rack : Rack} {before behind positions : List Nat} {position : Nat} {formula text : Text}
  {visits : List Visit} {failure : Failure}

theorem rack_perform_apply (rack : Rack) (position : Nat) (text : Text) :
    (rack.perform position (.apply text)).rack = (rack.applyAt position text).rack := by
  cases hf : rack[position]? with
  | none => simp only [perform, applyAt, hf]
  | some f => simp only [perform, hf]

theorem visited_cons (rack : Rack) (visit : Visit) (visits : List Visit) :
    rack.visited (visit :: visits)
      = (rack.applyAt visit.position visit.text).rack.visited visits := by
  rw [visited, List.map_cons, after, List.foldl_cons, ← rack_perform_apply]
  rfl

theorem visited_concat (rack : Rack) (visits : List Visit) (visit : Visit) :
    rack.visited (visits ++ [visit])
      = ((rack.visited visits).applyAt visit.position visit.text).rack := by
  rw [visited, List.map_append, after, List.foldl_append, ← rack_perform_apply]
  rfl

theorem textsAt_cons (position : Nat) (visit : Visit) (visits : List Visit) :
    textsAt position (visit :: visits)
      = if visit.position = position then visit.text :: textsAt position visits
        else textsAt position visits := by
  rw [textsAt, List.filterMap_cons]
  split <;> simp_all [textsAt]

/-- Behind visits, a filter is what the applications to its own texts have made of it. -/
theorem getElem?_visited (rack : Rack) (position : Nat) (visits : List Visit) :
    (rack.visited visits)[position]?
      = rack[position]?.map fun f : Filter => f.appliedTo (textsAt position visits) := by
  induction visits generalizing rack with
  | nil => simp [visited, after, textsAt, Filter.appliedTo]
  | cons visit visits ih =>
    rw [visited_cons, ih, ← rack_perform_apply, getElem?_perform, textsAt_cons]
    split
    case isTrue =>
      rw [Option.map_map]
      rfl
    case isFalse => rfl

theorem textsAt_eq_nil (h : position ∉ visits.map Visit.position) :
    textsAt position visits = [] := by
  rw [textsAt, List.filterMap_eq_nil_iff]
  intro visit hvisit
  rw [if_neg]
  rintro rfl
  exact h (List.mem_map_of_mem hvisit)

theorem length_textsAt (position : Nat) (visits : List Visit) :
    (textsAt position visits).length = (visits.map Visit.position).count position := by
  induction visits with
  | nil => rfl
  | cons visit visits ih =>
    rw [textsAt_cons, List.map_cons, List.count_cons, ← ih]
    split
    case isTrue heq => rw [if_pos (beq_iff_eq.mpr heq), List.length_cons]
    case isFalse hne => rw [if_neg (mt beq_iff_eq.mp hne), Nat.add_zero]

/-! ## Runs -/

/-- The visits of a run are at its positions. -/
theorem Passes.map_position (h : Passes rack positions formula visits text) :
    visits.map Visit.position = positions := by
  induction h with
  | nil => rfl
  | cons _ _ ih => rw [List.map_cons, ih]

/-- A run that gets past some positions goes on from the rack behind its visits. -/
theorem Passes.applyAll_append (h : Passes rack before formula visits text) (behind : List Nat) :
    (rack.applyAll (ofPositions (before ++ behind)) formula).result
        = ((rack.visited visits).applyAll (ofPositions behind) text).result ∧
      (rack.applyAll (ofPositions (before ++ behind)) formula).rack
        = ((rack.visited visits).applyAll (ofPositions behind) text).rack := by
  induction h with
  | nil => exact ⟨rfl, rfl⟩
  | @cons rack position positions text new last visits hfirst _ ih =>
    obtain ⟨hresult, hrack⟩ := applyAll_cons_of_ok hfirst (positions ++ behind)
    rw [List.cons_append, visited_cons]
    exact ⟨hresult.trans ih.1, hrack.trans ih.2⟩

/-- A run that gets past all its positions comes out with the last text, and leaves the rack behind
its visits. -/
theorem Passes.applyAll_eq (h : Passes rack positions formula visits text) :
    (rack.applyAll (ofPositions positions) formula).result = .ok text ∧
      (rack.applyAll (ofPositions positions) formula).rack = rack.visited visits := by
  have happend := h.applyAll_append []
  rw [List.append_nil] at happend
  exact happend

/-- A run that succeeds gets past all its positions. -/
theorem exists_passes (h : (rack.applyAll (ofPositions positions) formula).result = .ok text) :
    ∃ visits, Passes rack positions formula visits text := by
  induction positions generalizing rack formula with
  | nil =>
    cases h
    exact ⟨[], .nil⟩
  | cons position rest ih =>
    cases hfirst : (rack.applyAt position formula).result with
    | error failure =>
      rw [applyAll_cons_of_error hfirst] at h
      cases h
    | ok new =>
      rw [(applyAll_cons_of_ok hfirst rest).1] at h
      obtain ⟨visits, hmore⟩ := ih h
      exact ⟨⟨position, formula⟩ :: visits, .cons hfirst hmore⟩

/-- The filter at this position is the first of the run that raises. -/
structure FirstRaises (rack : Rack) (positions before : List Nat) (position : Nat)
    (behind : List Nat) (formula : Text) (visits : List Visit) (text : Text) (failure : Failure) :
    Prop where
  positions_eq : positions = before ++ position :: behind
  passes : Passes rack before formula visits text
  raised : ((rack.visited visits).applyAt position text).result = .error failure

/-- A run that fails has a filter that is the first to raise. -/
theorem exists_firstRaises
    (h : (rack.applyAll (ofPositions positions) formula).result = .error failure) :
    ∃ before position behind visits text,
      FirstRaises rack positions before position behind formula visits text failure := by
  obtain ⟨before, position, behind, text, hpositions, hbefore, hraised⟩ :=
    applyAll_eq_error_iff.mp h
  obtain ⟨visits, hpasses⟩ := exists_passes hbefore
  rw [hpasses.applyAll_eq.2] at hraised
  exact ⟨before, position, behind, visits, text, hpositions, hpasses, hraised⟩

/-- What a run leaves behind whose filter at `position` is the first to raise. -/
structure Interrupted (rack : Rack) (before : List Nat) (position : Nat) (visits : List Visit)
    (text : Text) (failure : Failure) (run : Run Text) : Prop where
  result_eq : run.result = .error failure
  /-- Each filter has been applied to the texts of its own visits, in order, and to no other. -/
  reached : ∀ other, run.rack[other]? = rack[other]?.map fun f : Filter =>
    f.appliedTo (textsAt other (visits ++ [Visit.mk position text]))
  /-- For a literal token: what was staged is consumed, and the replacer is called once for each
  further application. -/
  unkeyed : ∀ other f, rack[other]? = some f → other ∈ before ++ [position] →
    (∀ form, f.kind ≠ .keyed form) → f.replacer ≠ none →
      run.rack[other]? = some { f.unstaged with
        calls := f.calls ++ List.replicate
          ((before ++ [position]).count other - if f.staged = [] then 0 else 1) none }
  /-- A filter that only comes later, or not at all, is as it was. -/
  untouched : ∀ other, other ∉ before ++ [position] → run.rack[other]? = rack[other]?
  /-- The application that raised has not changed what is staged on its filter. -/
  raising : ∀ f, (rack.visited visits)[position]? = some f →
    ∃ g, run.rack[position]? = some g ∧ g.kind = f.kind ∧ g.replacer = f.replacer

/-- The first filter that raises interrupts the run. -/
theorem FirstRaises.interrupted
    (h : FirstRaises rack positions before position behind formula visits text failure) :
    Interrupted rack before position visits text failure
      (rack.applyAll (ofPositions positions) formula) := by
  obtain ⟨rfl, hpasses, hraised⟩ := h
  obtain ⟨hresult, hrack⟩ := hpasses.applyAll_append (position :: behind)
  have hpositions :
      (visits ++ [Visit.mk position text]).map Visit.position = before ++ [position] := by
    rw [List.map_append, hpasses.map_position]
    rfl
  have hleft : (rack.applyAll (ofPositions (before ++ position :: behind)) formula).rack
      = ((rack.visited visits).applyAt position text).rack := by
    rw [hrack, ofPositions, List.map_cons, applyAll]
    simp only [hraised]
  have hreached : ∀ other,
      (rack.applyAll (ofPositions (before ++ position :: behind)) formula).rack[other]?
        = rack[other]?.map fun f : Filter =>
          f.appliedTo (textsAt other (visits ++ [Visit.mk position text])) := by
    intro other
    rw [hleft, ← visited_concat rack visits ⟨position, text⟩, getElem?_visited]
  refine ⟨hresult.trans (applyAll_cons_of_error hraised behind), hreached, ?_, ?_, ?_⟩
  · intro other f hf hmem hkind hreplacer
    have hlength := length_textsAt other (visits ++ [Visit.mk position text])
    rw [hpositions] at hlength
    have hnonempty : textsAt other (visits ++ [Visit.mk position text]) ≠ [] := by
      rw [← List.length_pos_iff, hlength]
      exact List.count_pos_iff.mpr hmem
    rw [hreached, hf, Option.map_some, Filter.appliedTo_unkeyed hkind hreplacer hnonempty, hlength]
  · intro other hmem
    rw [← hpositions] at hmem
    rw [hreached, textsAt_eq_nil hmem]
    exact Option.map_id'
  · intro f hf
    rw [applyAt] at hraised
    simp only [hf] at hraised
    have hnew := getElem?_perform (rack.visited visits) position position (.apply text)
    rw [rack_perform_apply, ← hleft, if_pos rfl, hf] at hnew
    exact ⟨(f.apply text).filter, hnew, Filter.kind_of_apply_eq_error hraised⟩

/-- Recovering from a failure leaves the filters as they are. -/
theorem rack_recovered {events : List Event} {selections : List Selection}
    (shown : Except Failure Text) (record : Text → Except Failure Evaluation) :
    (recovered rack events selections shown failure record).rack = rack := by
  unfold recovered
  cases failure.summary <;> cases shown <;> rfl

/-- Evaluating runs the filters and leaves them as the run did, whether it succeeds or not. -/
theorem rack_evaluate (limits : Limits) {arguments : List Selection}
    (harguments : Selection.flatten arguments = ofPositions positions) (formula : Text) :
    (rack.evaluate limits arguments formula).rack
      = (rack.applyAll (ofPositions positions) formula).rack := by
  rw [evaluate]
  simp only [harguments]
  split
  case h_1 => exact rack_recovered _ _
  case h_2 =>
    split
    case h_1 => rfl
    case h_2 => exact rack_recovered _ _

/-- **A failing substitution touches only the filters that it has reached.** A run that fails has a
filter that is the first to raise, and from that filter on nothing has been touched. Evaluating a
formula leaves the filters in the same state and turns the failure into a record, if there is a text
of it; and a failure behind the filters leaves them as the successful run has left them. -/
theorem applyAll_interrupted (rack : Rack) (positions : List Nat) (formula : Text) :
    (∀ failure, (rack.applyAll (ofPositions positions) formula).result = .error failure →
      ∃ before position behind visits text,
        FirstRaises rack positions before position behind formula visits text failure) ∧
    (∀ before position behind visits text failure,
      FirstRaises rack positions before position behind formula visits text failure →
        Interrupted rack before position visits text failure
          (rack.applyAll (ofPositions positions) formula)) ∧
    (∀ visits text, Passes rack positions formula visits text →
      (rack.applyAll (ofPositions positions) formula).result = .ok text ∧
        (rack.applyAll (ofPositions positions) formula).rack = rack.visited visits) ∧
    ∀ limits arguments, Selection.flatten arguments = ofPositions positions →
      (rack.evaluate limits arguments formula).rack
          = (rack.applyAll (ofPositions positions) formula).rack ∧
        ∀ failure, (rack.applyAll (ofPositions positions) formula).result = .error failure →
          (rack.evaluate limits arguments formula).result
            = failure.summary.map (failedEvaluation formula none) := by
  refine ⟨fun _ => exists_firstRaises, fun _ _ _ _ _ _ => FirstRaises.interrupted,
    fun _ _ => Passes.applyAll_eq, fun limits arguments harguments => ?_⟩
  refine ⟨rack_evaluate limits harguments formula, fun failure hfailed => ?_⟩
  exact evaluate_of_raised (harguments ▸ hfailed)

/-- The first filter is used twice before the second one raises: its staged text is consumed by the
first use, its replacer is called for the second use, and the third use is not reached. -/
example :
    let rack : Rack :=
      [ { kind := .overridable "\x7ba\x7d".toList "5".toList
          replacer := some (.constant (.int 1)) },
        { kind := .literal "\x7bb\x7d".toList
          replacer := some ⟨fun _ _ => .error (.raised "RuntimeError" none)⟩ } ]
    let run := rack.applyAll (ofPositions [0, 0, 1, 0]) "\x7ba\x7d+\x7bb\x7d".toList
    run.rack.map (fun f => (f.staged, f.calls)) = [([], [none]), ([], [none])] := by
  decide

end Rack

end Formulary
