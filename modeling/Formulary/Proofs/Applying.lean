/-
Formulary.Proofs.Applying — what one application of a filter does.

Applying is opened here once, with one equation for each way it can go: without a replacer, with a
staged text, with a call of the replacer, and with the keys of a keyed filter. Laws about runs and
about histories are built from these and never look into `Filter.apply` themselves.
-/
import Formulary.Filter.Basic

namespace Formulary.Filter

variable {f : Filter} {replacer : Replacer} {token staged : Text} {form : KeyedForm}

/-! ## Without a replacer -/

/-- Without a replacer, applying gives the template back and leaves the filter as it is. -/
theorem apply_idle (hnone : f.replacer = none) (template : Text) :
    f.apply template = { result := .ok template, filter := f, events := [] } := by
  rw [apply, hnone]

/-! ## Filters for a literal token -/

/-- A staged text is the replacement, and is thereby taken. -/
theorem fetchReplacement_staged (hstaged : f.staged ≠ []) :
    f.fetchReplacement replacer
      = { result := .ok (some f.staged), filter := f.unstaged, events := [] } := by
  rw [fetchReplacement, if_neg (by simpa using hstaged)]

/-- With nothing staged, the replacement is the replacer's answer to one more call. -/
theorem fetchReplacement_called (hstaged : f.staged = []) :
    f.fetchReplacement replacer
      = { result := (replacer.answer f.calls none).map Replacement.ofValue
          filter := f.recorded none
          events := [] } := by
  rw [fetchReplacement, if_pos (by simpa using hstaged)]

/-- A filter for a literal token fetches a replacement and puts it in; the template has no part in
what becomes of the filter. -/
theorem apply_unkeyed (hkind : ∀ form, f.kind ≠ .keyed form) (hsome : f.replacer = some replacer)
    (template : Text) :
    (f.apply template).result
        = (f.fetchReplacement replacer).result.map (fun replacement =>
            (substitute f.token replacement template).1) ∧
      (f.apply template).filter = (f.fetchReplacement replacer).filter := by
  rw [apply, hsome]
  cases hform : f.kind with
  | keyed form => exact absurd hform (hkind form)
  | literal | overridable =>
    cases hfetched : (f.fetchReplacement replacer).result with
    | error failure => simp only [hfetched, Except.map, and_self]
    | ok replacement => simp only [hfetched, Except.map, and_self]

/-- What a text leads to that is not empty: it is put in, or, if it is a word for nothing, the
template stays as it is. -/
theorem substitute_some {new : Text} (hnew : new ≠ []) (token template : Text) :
    (substitute token (some new) template).1
      = if new ∈ Replacement.missingWords then template
        else Text.replaceAll token new template := by
  have hempty : new.isEmpty = false := List.isEmpty_eq_false_iff.mpr hnew
  by_cases hword : new ∈ Replacement.missingWords
  · simp [substitute, Replacement.accepted?, Replacement.isValidText, hword]
  · simp [substitute, Replacement.accepted?, Replacement.isValidText, hword, hempty]

/-- A staged text decides what applying an overridable filter gives, and is taken. -/
theorem apply_staged (hkind : f.kind = .overridable token staged)
    (hsome : f.replacer = some replacer) (hstaged : staged ≠ []) (template : Text) :
    (f.apply template).result = .ok (substitute token (some staged) template).1 ∧
      (f.apply template).filter = { f with kind := .overridable token [] } := by
  have hf : f.staged = staged := by rw [Filter.staged, hkind]
  have hunkeyed : ∀ form, f.kind ≠ .keyed form := by rw [hkind]; exact nofun
  obtain ⟨hresult, hfilter⟩ := apply_unkeyed hunkeyed hsome template
  rw [fetchReplacement_staged (hf ▸ hstaged)] at hresult hfilter
  refine ⟨hresult.trans ?_, hfilter.trans ?_⟩
  · rw [hf, Filter.token, hkind]
    rfl
  · rw [unstaged, hkind]

/-- With nothing staged, applying an overridable filter calls the replacer once, and its answer or
its failure is what comes of it. -/
theorem apply_called (hkind : f.kind = .overridable token [])
    (hsome : f.replacer = some replacer) (template : Text) :
    (f.apply template).result
        = (replacer.answer f.calls none).map (fun value =>
            (substitute token (Replacement.ofValue value) template).1) ∧
      (f.apply template).filter = { f with calls := f.calls ++ [none] } := by
  have hf : f.staged = [] := by rw [Filter.staged, hkind]
  have hunkeyed : ∀ form, f.kind ≠ .keyed form := by rw [hkind]; exact nofun
  obtain ⟨hresult, hfilter⟩ := apply_unkeyed hunkeyed hsome template
  rw [fetchReplacement_called hf] at hresult hfilter
  refine ⟨hresult.trans ?_, hfilter⟩
  rw [Filter.token, hkind]
  cases replacer.answer f.calls none <;> rfl

/-! ## Keyed filters -/

/-- The first call that fails ends the pass over the pieces. -/
theorem resolvePieces_keyed_of_error {calls : List Call} {key : Text} {failure : Failure}
    (hkey : key ≠ []) (hanswer : replacer.answer calls (some key) = .error failure)
    (rest : List Piece) :
    (resolvePieces form replacer calls (.keyed key :: rest)).result = .error failure := by
  rw [resolvePieces]
  · rw [hanswer]
  · exact hkey

/-- A key that is answered becomes the answer, if that may be put in, and the pass goes on. -/
theorem resolvePieces_keyed_of_ok {calls : List Call} {key : Text} {value : Value}
    (hkey : key ≠ []) (hanswer : replacer.answer calls (some key) = .ok value)
    (rest : List Piece) :
    (resolvePieces form replacer calls (.keyed key :: rest)).result
      = (resolvePieces form replacer (calls ++ [some key]) rest).result.map
          ((Replacement.accepted? (Replacement.ofValue value)).getD (form.placeholder key)
            ++ ·) := by
  rw [resolvePieces]
  · rw [hanswer]
    simp only
    cases Replacement.accepted? (Replacement.ofValue value) <;> rfl
  · exact hkey

/-- The call that fails is the last one on record. -/
theorem resolvePieces_keyed_calls_of_error {calls : List Call} {key : Text} {failure : Failure}
    (hkey : key ≠ []) (hanswer : replacer.answer calls (some key) = .error failure)
    (rest : List Piece) :
    (resolvePieces form replacer calls (.keyed key :: rest)).calls = calls ++ [some key] := by
  rw [resolvePieces]
  · rw [hanswer]
  · exact hkey

/-- A call that is answered is on record for the rest of the pass. -/
theorem resolvePieces_keyed_calls_of_ok {calls : List Call} {key : Text} {value : Value}
    (hkey : key ≠ []) (hanswer : replacer.answer calls (some key) = .ok value)
    (rest : List Piece) :
    (resolvePieces form replacer calls (.keyed key :: rest)).calls
      = (resolvePieces form replacer (calls ++ [some key]) rest).calls := by
  rw [resolvePieces]
  · rw [hanswer]
    simp only
    cases Replacement.accepted? (Replacement.ofValue value) <;> rfl
  · exact hkey

/-- A keyed filter goes through the pieces of the template, and only its record of calls changes. -/
theorem apply_keyed (hkind : f.kind = .keyed form) (hsome : f.replacer = some replacer)
    (template : Text) :
    (f.apply template).result
        = (resolvePieces form replacer f.calls (form.pieces template)).result ∧
      (f.apply template).filter
        = { f with
            calls := (resolvePieces form replacer f.calls (form.pieces template)).calls } := by
  rw [apply, hsome, hkind]
  exact ⟨rfl, rfl⟩

end Formulary.Filter
