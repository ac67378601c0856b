/-
Formulary.Proofs.Running — a run over a whole rack, without positions.

`Rack.applyAll` looks its filters up by position, because a filter may be selected several times and
its state has to carry over. When every filter is selected once and in order, nothing of that is
left: the run is a recursion over the list of filters, which is what inductions about whole racks
are made on.
-/
import Formulary.Rack

namespace Formulary.Rack

/-- Each filter in turn on the text that the one before it left, and the filters afterwards. The
first failure ends the pass; the filters behind it stay as they are. -/
def pass : Rack → Text → Except Failure Text × Rack
  | [], text => (.ok text, [])
  | f :: rest, text =>
    match (f.apply text).result with
    | .error failure => (.error failure, (f.apply text).filter :: rest)
    | .ok new => ((pass rest new).1, (f.apply text).filter :: (pass rest new).2)

/-- A run over the positions behind those already done is a pass over the filters there. -/
theorem applyAll_behind (done rest : Rack) (text : Text) :
    ((done ++ rest).applyAll
        (Selection.ofPositions (List.range' done.length rest.length)) text).result
      = (pass rest text).1 ∧
    ((done ++ rest).applyAll
        (Selection.ofPositions (List.range' done.length rest.length)) text).rack
      = done ++ (pass rest text).2 := by
  induction rest generalizing done text with
  | nil => exact ⟨rfl, rfl⟩
  | cons f rest ih =>
    have hget : (done ++ f :: rest)[done.length]? = some f := by simp
    have hset : (done ++ f :: rest).set done.length (f.apply text).filter
        = done ++ (f.apply text).filter :: rest := by simp
    simp only [List.length_cons, List.range'_succ, Selection.ofPositions, List.map_cons, applyAll,
      applyAt, hget, hset, pass]
    cases happly : (f.apply text).result with
    | error failure => exact ⟨rfl, rfl⟩
    | ok new =>
      -- The filter just applied joins those that are done.
      have step := ih (done ++ [(f.apply text).filter]) new
      simp only [List.append_assoc, List.singleton_append, List.length_append, List.length_cons,
        List.length_nil, Nat.zero_add, Selection.ofPositions] at step
      exact step

/-- Substituting with a whole rack is one pass over its filters. -/
theorem substitute_eq_pass (rack : Rack) (text : Text) :
    (rack.substitute text).result = (rack.pass text).1 ∧
      (rack.substitute text).rack = (rack.pass text).2 := by
  have h := applyAll_behind [] rack text
  simp only [List.nil_append, List.length_nil, ← List.range_eq_range'] at h
  exact h

end Formulary.Rack
