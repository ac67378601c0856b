/-
Formulary.Proofs.Staging — a staged text is used once.

Whatever is done to the filters of a rack, and in whatever order, what is staged on one of them can
be read off the operations on it alone: it is the text of the value staged last, unless that has
been taken since. `Consumes` says which operations take it, and `IsStaged` which value is there;
both look only at the list of operations, never at a filter. A value that has no text is refused and
stages nothing. That the state of a filter agrees with them is an induction over the operations,
which adds one more at the end in each step.

How each operation answers in a given state, and what it leaves behind, is `Serves`. The record of
the replacer's calls is part of what is left behind, so `Serves` also says which operations call it.
-/
import Formulary.Proofs.Applying
import Formulary.Rack

namespace Formulary.Rack

/-! ## Operations on one filter -/

namespace Operation

/-- Whether the operation takes what is staged on a filter that has this replacer, or none: fetching
always does, applying does with a replacer. -/
def Takes (replacer : Option Replacer) : Operation → Prop
  | .fetchStaged => True
  | .apply _ => replacer ≠ none
  | _ => False

/-- The replacer that a filter has behind the operation. -/
def assign (replacer : Option Replacer) : Operation → Option Replacer
  | .setReplacer new => new
  | _ => replacer

end Operation

/-- The replacer that a filter has behind operations on it: the one assigned last, or the one that
it had at first. -/
def assigned (first : Option Replacer) (ops : List Operation) : Option Replacer :=
  ops.foldl Operation.assign first

/-- The operation at this time takes what is staged. -/
def Consumes (first : Option Replacer) (ops : List Operation) (time : Nat) : Prop :=
  ∃ op, ops[time]? = some op ∧ op.Takes (assigned first (ops.take time))

/-- The operation stages the value, which has a text. -/
def Operation.Stages (op : Operation) (value : Value) : Prop :=
  op = .stage value ∧ value.hasText = true

/-- The value was staged at this time; since then it has not been taken, and no other has been
staged. -/
def IsStaged (first : Option Replacer) (ops : List Operation) (time : Nat) (value : Value) : Prop :=
  (∃ op, ops[time]? = some op ∧ op.Stages value) ∧
    ∀ later, time < later → ¬ Consumes first ops later ∧
      ∀ op other, ops[later]? = some op → ¬ op.Stages other

variable {first : Option Replacer} {ops : List Operation} {op : Operation} {time : Nat}
  {value : Value}

theorem assigned_concat (first : Option Replacer) (ops : List Operation) (op : Operation) :
    assigned first (ops ++ [op]) = op.assign (assigned first ops) := by
  rw [assigned, List.foldl_append]
  rfl

/-- There is no operation behind the last one. -/
theorem getElem?_concat_of_lt (h : ops.length < time) : (ops ++ [op])[time]? = none := by
  rw [List.getElem?_eq_none]
  simp only [List.length_append, List.length_singleton]
  omega

/-- Whether an operation takes what is staged does not depend on what is done later. -/
theorem consumes_concat :
    Consumes first (ops ++ [op]) time ↔
      Consumes first ops time ∨ time = ops.length ∧ op.Takes (assigned first ops) := by
  rcases Nat.lt_trichotomy time ops.length with hlt | rfl | hgt
  · have htake : (ops ++ [op]).take time = ops.take time :=
      List.take_append_of_le_length (Nat.le_of_lt hlt)
    simp [Consumes, List.getElem?_append_left hlt, htake, Nat.ne_of_lt hlt]
  · simp [Consumes]
  · have hnone : ops[time]? = none := List.getElem?_eq_none (Nat.le_of_lt hgt)
    simp [Consumes, getElem?_concat_of_lt hgt, hnone, Nat.ne_of_gt hgt]

/-- What is staged behind one more operation: what that operation stages, or what was staged before
it, unless it takes that or stages another value. -/
theorem isStaged_concat :
    IsStaged first (ops ++ [op]) time value ↔
      (time = ops.length ∧ op.Stages value) ∨
        (IsStaged first ops time value ∧ ¬ op.Takes (assigned first ops) ∧
          ∀ other, ¬ op.Stages other) := by
  constructor
  · rintro ⟨⟨staging, hat, hstages⟩, hlater⟩
    rcases Nat.lt_trichotomy time ops.length with hlt | rfl | hgt
    · rw [List.getElem?_append_left hlt] at hat
      obtain ⟨hconsumes, hstage⟩ := hlater ops.length hlt
      rw [consumes_concat] at hconsumes
      refine .inr ⟨⟨⟨staging, hat, hstages⟩, ?_⟩, fun htakes => hconsumes (.inr ⟨rfl, htakes⟩), ?_⟩
      · intro later h
        obtain ⟨hconsumes, hstage⟩ := hlater later h
        refine ⟨fun hc => hconsumes (consumes_concat.mpr (.inl hc)), fun op' other hop => ?_⟩
        have hbefore : later < ops.length := (List.getElem?_eq_some_iff.mp hop).1
        exact hstage op' other (by rw [List.getElem?_append_left hbefore, hop])
      · exact fun other => hstage op other (by simp)
    · obtain rfl : op = staging := by simpa using hat
      exact .inl ⟨rfl, hstages⟩
    · rw [getElem?_concat_of_lt hgt] at hat
      cases hat
  · rintro (⟨rfl, hstages⟩ | ⟨⟨⟨staging, hat, hstages⟩, hlater⟩, htakes, hstage⟩)
    · refine ⟨⟨op, by simp, hstages⟩, fun later h => ?_⟩
      simp [Consumes, getElem?_concat_of_lt h]
    · have hlt : time < ops.length := (List.getElem?_eq_some_iff.mp hat).1
      refine ⟨⟨staging, by rw [List.getElem?_append_left hlt, hat], hstages⟩,
        fun later h => ⟨?_, ?_⟩⟩
      · rw [consumes_concat]
        rintro (hc | ⟨-, ht⟩)
        · exact (hlater later h).1 hc
        · exact htakes ht
      · intro op' other hop
        rcases Nat.lt_trichotomy later ops.length with hbefore | rfl | hbehind
        · rw [List.getElem?_append_left hbefore] at hop
          exact (hlater later h).2 op' other hop
        · obtain rfl : op = op' := by simpa using hop
          exact hstage other
        · rw [getElem?_concat_of_lt hbehind] at hop
          cases hop

/-- Of two operations that take what is staged, the later one does not find the value that the
earlier one found. -/
theorem not_isStaged_of_consumes {earlier later : Nat} {other : Value} (hlt : earlier < later)
    (hconsumes : Consumes first ops earlier)
    (hstaged : IsStaged first (ops.take earlier) time value) :
    ¬ IsStaged first (ops.take later) time other := by
  rintro ⟨-, hlater⟩
  have htime : time < earlier := by
    obtain ⟨⟨op, hop, -⟩, -⟩ := hstaged
    have hlength := (List.getElem?_eq_some_iff.mp hop).1
    rw [List.length_take] at hlength
    omega
  obtain ⟨op, hop, htakes⟩ := hconsumes
  refine (hlater earlier htime).1 ⟨op, ?_, ?_⟩
  · rw [List.getElem?_take_of_lt hlt, hop]
  · rwa [List.take_take, Nat.min_eq_left (Nat.le_of_lt hlt)]

/-! ## The state of a filter -/

/-- The filter behind an operation on it. -/
def Operation.perform (f : Filter) : Operation → Filter
  | .apply template => (f.apply template).filter
  | .stage value => if value.hasText then f.stage value else f
  | .hasStaged => f
  | .fetchStaged => f.unstaged
  | .setReplacer replacer => f.withReplacer replacer

/-- The state of an overridable filter is what the operations on it say: the replacer that was
assigned last, and the text of what is staged, or nothing. -/
structure Agrees (token : Text) (first : Option Replacer) (ops : List Operation) (f : Filter) :
    Prop where
  kind_eq : f.kind = .overridable token f.staged
  replacer_eq : f.replacer = assigned first ops
  staged_eq : ∀ time value, IsStaged first ops time value → f.staged = value.toText
  staged_eq_nil : (∀ time value, ¬ IsStaged first ops time value) → f.staged = []

namespace Agrees

variable {token : Text} {f g : Filter}

/-- At first nothing is staged. -/
theorem nil (hkind : f.kind = .overridable token []) : Agrees token f.replacer [] f where
  kind_eq := by rw [hkind, Filter.staged, hkind]
  replacer_eq := rfl
  staged_eq _ _ h := by
    obtain ⟨⟨op, hop, -⟩, -⟩ := h
    cases hop
  staged_eq_nil _ := by rw [Filter.staged, hkind]

/-- What is staged stays behind an operation that neither takes it nor stages a value. -/
theorem keep (h : Agrees token first ops f) (htakes : ¬ op.Takes (assigned first ops))
    (hstage : ∀ other, ¬ op.Stages other) (hkind : g.kind = f.kind)
    (hreplacer : g.replacer = op.assign f.replacer) : Agrees token first (ops ++ [op]) g := by
  have hstaged : g.staged = f.staged := by rw [Filter.staged, Filter.staged, hkind]
  have hkept : ∀ time value,
      IsStaged first (ops ++ [op]) time value ↔ IsStaged first ops time value := by
    intro time value
    rw [isStaged_concat]
    simp [htakes, hstage]
  constructor
  · rw [hkind, hstaged, h.kind_eq]
  · rw [hreplacer, assigned_concat, h.replacer_eq]
  · intro time value hv
    rw [hstaged, h.staged_eq time value ((hkept time value).mp hv)]
  · intro hnone
    rw [hstaged]
    exact h.staged_eq_nil fun time value hv => hnone time value ((hkept time value).mpr hv)

/-- Nothing is staged behind an operation that takes what was. -/
theorem take (htakes : op.Takes (assigned first ops)) (hkind : g.kind = .overridable token [])
    (hreplacer : g.replacer = assigned first (ops ++ [op])) :
    Agrees token first (ops ++ [op]) g := by
  have hstaged : g.staged = [] := by rw [Filter.staged, hkind]
  refine ⟨by rw [hkind, hstaged], hreplacer, fun time value hv => ?_, fun _ => hstaged⟩
  rcases isStaged_concat.mp hv with ⟨-, rfl, -⟩ | ⟨-, hnot, -⟩
  · cases htakes
  · exact absurd htakes hnot

/-- The last value staged is what is staged. -/
theorem stage (h : Agrees token first ops f) (htext : value.hasText = true) :
    Agrees token first (ops ++ [.stage value]) (f.stage value) := by
  have hstage : f.stage value = { f with kind := .overridable token value.toText } := by
    rw [Filter.stage, h.kind_eq]
  have hlast : IsStaged first (ops ++ [.stage value]) ops.length value :=
    isStaged_concat.mpr (.inl ⟨rfl, rfl, htext⟩)
  rw [hstage]
  refine ⟨rfl, ?_, fun time other hv => ?_, fun hnone => absurd hlast (hnone _ _)⟩
  · rw [assigned_concat, ← h.replacer_eq]
    rfl
  · rcases isStaged_concat.mp hv with ⟨-, heq, -⟩ | ⟨-, -, hnot⟩
    · cases heq
      rfl
    · exact absurd ⟨rfl, htext⟩ (hnot value)

/-- **Each operation keeps the state in agreement.** -/
theorem perform (h : Agrees token first ops f) (op : Operation) :
    Agrees token first (ops ++ [op]) (op.perform f) := by
  cases op with
  | hasStaged => exact h.keep (fun ht => ht) (by rintro other ⟨⟨⟩, -⟩) rfl rfl
  | setReplacer replacer => exact h.keep (fun ht => ht) (by rintro other ⟨⟨⟩, -⟩) rfl rfl
  | stage value =>
    rw [Operation.perform]
    split
    case isTrue htext => exact h.stage htext
    case isFalse htext =>
      refine h.keep (fun ht => ht) ?_ rfl rfl
      rintro other ⟨⟨⟩, hother⟩
      exact htext hother
  | fetchStaged =>
    have hunstaged : f.unstaged = { f with kind := .overridable token [] } := by
      rw [Filter.unstaged, h.kind_eq]
    refine take trivial ?_ ?_
    · rw [Operation.perform, hunstaged]
    · rw [Operation.perform, hunstaged, assigned_concat, ← h.replacer_eq]
      rfl
  | apply template =>
    cases hreplacer : f.replacer with
    | none =>
      have hidle := congrArg Application.filter (Filter.apply_idle hreplacer template)
      refine h.keep (fun ht => ht ?_) (by rintro other ⟨⟨⟩, -⟩) (congrArg Filter.kind hidle)
        (congrArg Filter.replacer hidle)
      rw [← h.replacer_eq, hreplacer]
    | some replacer =>
      have htakes : (Operation.apply template).Takes (assigned first ops) := by
        rw [← h.replacer_eq, hreplacer]
        exact Option.some_ne_none replacer
      have hassigned : assigned first (ops ++ [.apply template]) = f.replacer := by
        rw [assigned_concat, h.replacer_eq]
        rfl
      have hkind := h.kind_eq
      by_cases hstaged : f.staged = []
      · rw [hstaged] at hkind
        have hcalled := (Filter.apply_called hkind hreplacer template).2
        exact take htakes ((congrArg Filter.kind hcalled).trans hkind)
          ((congrArg Filter.replacer hcalled).trans hassigned.symm)
      · have htaken := (Filter.apply_staged hkind hreplacer hstaged template).2
        exact take htakes (congrArg Filter.kind htaken)
          ((congrArg Filter.replacer htaken).trans hassigned.symm)

/-- The state of a filter on which nothing was staged at first agrees with whatever is done. -/
theorem foldl (hkind : f.kind = .overridable token []) (ops : List Operation) :
    Agrees token f.replacer ops (ops.foldl (fun g op => op.perform g) f) := by
  -- The history grows at its end, so the induction is on the reversed list.
  rw [← List.reverse_reverse ops]
  induction ops.reverse with
  | nil => exact nil hkind
  | cons op earlier ih =>
    rw [List.reverse_cons, List.foldl_append]
    exact ih.perform op

end Agrees

/-! ## Runs over a rack -/

/-- An operation with the position of the filter that it is made on. -/
structure Step where
  position : Nat
  operation : Operation

/-- The rack behind a run of operations on its filters. -/
def after (rack : Rack) (steps : List Step) : Rack :=
  steps.foldl (fun rack step => (rack.perform step.position step.operation).rack) rack

/-- The operations of a run that are made on the filter at a position. -/
def operationsOn (position : Nat) (steps : List Step) : List Operation :=
  steps.filterMap fun step => if step.position = position then some step.operation else none

/-- An operation changes the filter that it is made on and leaves all others where they are. -/
theorem perform_rack {rack : Rack} {position : Nat} {f : Filter} (hf : rack[position]? = some f)
    (op : Operation) : (rack.perform position op).rack = rack.set position (op.perform f) := by
  have hsame : rack.set position f = rack := by
    obtain ⟨hlt, rfl⟩ := List.getElem?_eq_some_iff.mp hf
    exact List.set_getElem_self hlt
  rw [Rack.perform]
  simp only [hf]
  cases op with
  | apply template => simp only [applyAt, hf, Operation.perform]
  | setReplacer replacer => rfl
  | stage value =>
    cases htext : value.hasText <;> cases hkind : f.kind <;>
      simp [stagingStep, Operation.perform, Filter.stage, hkind, htext, hsame]
  | hasStaged | fetchStaged =>
    cases hkind : f.kind <;>
      simp only [stagingStep, Operation.perform, Filter.unstaged, hkind, hsame]

/-- An operation at one position, seen from any position. -/
theorem getElem?_perform (rack : Rack) (position other : Nat) (op : Operation) :
    (rack.perform other op).rack[position]?
      = if other = position then rack[position]?.map op.perform else rack[position]? := by
  cases hf : rack[other]? with
  | none =>
    rw [Rack.perform]
    simp only [hf]
    split
    case isTrue heq => rw [← heq, hf, Option.map_none]
    case isFalse => rfl
  | some f =>
    rw [perform_rack hf, List.getElem?_set]
    split
    case isTrue heq =>
      subst heq
      rw [hf, if_pos (List.getElem?_eq_some_iff.mp hf).1, Option.map_some]
    case isFalse => rfl

/-- Behind a run, a filter is what the operations on it have made of it. -/
theorem getElem?_after {rack : Rack} {position : Nat} {f : Filter} (hf : rack[position]? = some f)
    (steps : List Step) :
    (rack.after steps)[position]?
      = some ((operationsOn position steps).foldl (fun g op => op.perform g) f) := by
  induction steps generalizing rack f with
  | nil => exact hf
  | cons step rest ih =>
    have hstep := getElem?_perform rack position step.position step.operation
    rw [hf, Option.map_some] at hstep
    rw [after, List.foldl_cons, operationsOn, List.filterMap_cons]
    split at hstep
    case isTrue heq =>
      rw [if_pos heq]
      exact ih hstep
    case isFalse hne =>
      rw [if_neg hne]
      exact ih hstep

/-! ## What operations answer -/

/-- How the overridable filter at a position answers operations: what each of them gives, and what
the filter is behind it. No answer depends on the other filters of the rack. -/
structure Serves (rack : Rack) (position : Nat) (token : Text) (f : Filter) : Prop where
  present : rack[position]? = some f
  kind_eq : f.kind = .overridable token f.staged
  /-- Operations on other filters leave it as it is. -/
  others : ∀ other op, other ≠ position → (rack.perform other op).rack[position]? = some f
  stage : ∀ value, value.hasText = true →
    (rack.perform position (.stage value)).result = .ok .done ∧
      (rack.perform position (.stage value)).rack[position]?
        = some { f with kind := .overridable token value.toText }
  /-- A value without a text is refused, and nothing changes. -/
  refuse : ∀ value, value.hasText = false →
    (rack.perform position (.stage value)).result = .error .tooManyDigits ∧
      (rack.perform position (.stage value)).rack[position]? = some f
  hasStaged :
    (rack.perform position .hasStaged).result = .ok (.truth (!f.staged.isEmpty)) ∧
      (rack.perform position .hasStaged).rack[position]? = some f
  fetchStaged :
    (rack.perform position .fetchStaged).result = .ok (.text f.staged) ∧
      (rack.perform position .fetchStaged).rack[position]?
        = some { f with kind := .overridable token [] }
  /-- A replacer that is assigned has not been called yet; what is staged stays. -/
  setReplacer : ∀ new,
    (rack.perform position (.setReplacer new)).result = .ok .done ∧
      (rack.perform position (.setReplacer new)).rack[position]?
        = some { f with replacer := new, calls := [] }
  /-- Without a replacer, applying consumes nothing. -/
  apply_idle : f.replacer = none → ∀ template,
    (rack.perform position (.apply template)).result = .ok (.text template) ∧
      (rack.perform position (.apply template)).rack[position]? = some f
  /-- A staged text is put in, or leaves the template as it is if it is a word for nothing. Either
  way it is consumed, and the replacer is not called. -/
  apply_staged : f.replacer ≠ none → f.staged ≠ [] → ∀ template,
    (rack.perform position (.apply template)).result
        = .ok (.text (if f.staged ∈ Replacement.missingWords then template
            else Text.replaceAll token f.staged template)) ∧
      (rack.perform position (.apply template)).rack[position]?
        = some { f with kind := .overridable token [] }
  /-- With nothing staged, the replacer is called once, also when the call fails. -/
  apply_called : ∀ replacer, f.replacer = some replacer → f.staged = [] → ∀ template,
    (rack.perform position (.apply template)).result
        = (replacer.answer f.calls none).map (fun value =>
            .text (Filter.substitute token (Replacement.ofValue value) template).1) ∧
      (rack.perform position (.apply template)).rack[position]?
        = some { f with calls := f.calls ++ [none] }

/-- An overridable filter answers operations in this way. -/
theorem serves {rack : Rack} {position : Nat} {token : Text} {f : Filter}
    (hf : rack[position]? = some f) (hkind : f.kind = .overridable token f.staged) :
    Serves rack position token f := by
  have hbehind : ∀ op, (rack.perform position op).rack[position]? = some (op.perform f) := by
    intro op
    rw [getElem?_perform, if_pos rfl, hf, Option.map_some]
  have hstaging : ∀ op, (∀ template, op ≠ .apply template) → (∀ new, op ≠ .setReplacer new) →
      (rack.perform position op).result = (stagingStep f token f.staged op).1 := by
    intro op happly hassign
    rw [Rack.perform]
    simp only [hf]
    cases op with
    | apply template => exact absurd rfl (happly template)
    | setReplacer new => exact absurd rfl (hassign new)
    | stage | hasStaged | fetchStaged => rw [hkind]
  have happly : ∀ template, (rack.perform position (.apply template)).result
      = (f.apply template).result.map .text := by
    intro template
    rw [Rack.perform]
    simp only [hf, applyAt]
  refine ⟨hf, hkind, ?_, ?_, ?_, ?_, ?_, ?_, ?_, ?_, ?_⟩
  · intro other op hne
    rw [getElem?_perform, if_neg hne, hf]
  · intro value htext
    refine ⟨(hstaging (.stage value) nofun nofun).trans ?_, (hbehind _).trans ?_⟩
    · rw [stagingStep, if_pos htext]
    · rw [Operation.perform, if_pos htext, Filter.stage, hkind]
  · intro value htext
    have hnot := ne_true_of_eq_false htext
    refine ⟨(hstaging (.stage value) nofun nofun).trans ?_, (hbehind _).trans ?_⟩
    · rw [stagingStep, if_neg hnot]
    · rw [Operation.perform, if_neg hnot]
  · exact ⟨hstaging _ nofun nofun, hbehind _⟩
  · refine ⟨hstaging _ nofun nofun, (hbehind _).trans ?_⟩
    rw [Operation.perform, Filter.unstaged, hkind]
  · intro new
    refine ⟨?_, hbehind _⟩
    rw [Rack.perform]
    simp only [hf]
  · intro hnone template
    have hidle := Filter.apply_idle hnone template
    refine ⟨(happly template).trans ?_, (hbehind _).trans ?_⟩
    · rw [hidle]
      rfl
    · rw [Operation.perform, hidle]
  · intro hsome hstaged template
    obtain ⟨replacer, hreplacer⟩ := Option.ne_none_iff_exists'.mp hsome
    obtain ⟨hresult, hfilter⟩ := Filter.apply_staged hkind hreplacer hstaged template
    refine ⟨(happly template).trans ?_, (hbehind _).trans (congrArg some hfilter)⟩
    rw [hresult, Filter.substitute_some hstaged]
    rfl
  · intro replacer hreplacer hstaged template
    rw [hstaged] at hkind
    obtain ⟨hresult, hfilter⟩ := Filter.apply_called hkind hreplacer template
    refine ⟨(happly template).trans ?_, (hbehind _).trans (congrArg some hfilter)⟩
    rw [hresult]
    cases replacer.answer f.calls none <;> rfl

/-- **One-shot staging.** Take an overridable filter on which nothing is staged, and any run of
operations on the filters of its rack. Behind the run its staged text is that of the value staged
last, if that has not been consumed since, and empty otherwise; its replacer is the one assigned
last; and it answers every operation as `Serves` says. No two operations that consume what is staged
find the same value. -/
theorem staging_one_shot {rack : Rack} {position : Nat} {token : Text} {f : Filter}
    (hf : rack[position]? = some f) (hkind : f.kind = .overridable token []) (steps : List Step) :
    (∃ now,
      Serves (rack.after steps) position token now ∧
      now.replacer = assigned f.replacer (operationsOn position steps) ∧
      (∀ time value, IsStaged f.replacer (operationsOn position steps) time value →
        now.staged = value.toText) ∧
      ((∀ time value, ¬ IsStaged f.replacer (operationsOn position steps) time value) →
        now.staged = [])) ∧
    ∀ earlier later time value other, earlier < later →
      Consumes f.replacer (operationsOn position steps) earlier →
      IsStaged f.replacer ((operationsOn position steps).take earlier) time value →
        ¬ IsStaged f.replacer ((operationsOn position steps).take later) time other := by
  have hagrees := Agrees.foldl hkind (operationsOn position steps)
  refine ⟨⟨_, serves (getElem?_after hf steps) hagrees.kind_eq, hagrees.replacer_eq,
    hagrees.staged_eq, hagrees.staged_eq_nil⟩, ?_⟩
  intro earlier later time value other hlt hconsumes hstaged
  exact not_isStaged_of_consumes hlt hconsumes hstaged

/-- A six is staged while there is no replacer, so the application that follows leaves it. Assigning
a replacer and fetching from another filter leave it too; the next application puts it in. -/
theorem staging_one_shot_kept :
    let token := "\x7broll\x7d".toList
    let rack : Rack :=
      [ { kind := .overridable token [], replacer := none },
        { kind := .literal "x".toList, replacer := none } ]
    let steps : List Step :=
      [ ⟨0, .stage (.int 6)⟩, ⟨0, .apply token⟩, ⟨0, .setReplacer (some (.constant (.int 4)))⟩,
        ⟨1, .fetchStaged⟩ ]
    ((rack.after steps).perform 0 (.apply (token ++ ['+'] ++ token))).result
      = .ok (.text "6+6".toList) := by
  intro token rack steps
  obtain ⟨⟨now, hserves, hreplacer, hstaged, -⟩, -⟩ :=
    @staging_one_shot rack 0 token _ rfl rfl steps
  have hsix : now.staged = "6".toList := by
    refine hstaged 0 (.int 6) ⟨⟨_, rfl, rfl, by decide⟩, fun later hlater => ?_⟩
    match later with
    | 1 =>
      refine ⟨?_, ?_⟩
      · rintro ⟨op, hop, htakes⟩
        cases hop
        exact htakes rfl
      · rintro op other hop ⟨rfl, -⟩
        cases hop
    | 2 =>
      refine ⟨?_, ?_⟩
      · rintro ⟨op, hop, htakes⟩
        cases hop
        exact htakes
      · rintro op other hop ⟨rfl, -⟩
        cases hop
    | n + 3 => exact ⟨by rintro ⟨op, ⟨⟩, -⟩, by rintro op other ⟨⟩⟩
  have hsome : now.replacer ≠ none := by
    rw [hreplacer]
    exact nofun
  refine (hserves.apply_staged hsome (by rw [hsix]; decide) _).1.trans ?_
  rw [hsix]
  rfl

end Formulary.Rack
