/-
Formulary.Proofs.KeyedLiterals — a keyed filter for a table is a literal filter for each entry.

A keyed filter looks for a pattern and reads over everything that fits it, whether the table knows
the key or not; a literal filter looks for one text, and the filters behind it look at what it has
put in. Where braces are nested the two part ways. Where they are not, every placeholder of the
pattern is a whole fragment, with the key in it: so the pass of the keyed filter is the pass over
the fragments that the literal filters come to as well, in whatever order these are applied.
-/
import Formulary.Proofs.KeyedScan
import Formulary.Proofs.StagedEntries
import Formulary.Proofs.SubstitutionOrder
import Mathlib.Data.List.Nodup

namespace Formulary

open Placeholder

namespace KeyedForm

variable {form : KeyedForm} {key name other rest text : Text} {entries : List (Text × Value)}

/-! ## Placeholders in braces -/

/-- The form puts its placeholders in braces, and has no other braces. -/
structure IsBraced (form : KeyedForm) : Prop where
  left : form.left = ['\x7b']
  right : form.right = ['\x7d']
  token : Placeholder.IsPlain form.token
  separator : Placeholder.IsPlain form.separator

theorem IsBraced.placeholder_eq (hform : form.IsBraced) (key : Text) :
    form.placeholder key = fragment (form.token ++ form.separator ++ key) := by
  simp [placeholder, opening, fragment, hform.left, hform.right]

theorem IsBraced.isPlain_front (hform : form.IsBraced) :
    Placeholder.IsPlain (form.token ++ form.separator) :=
  List.forall_mem_append.mpr ⟨hform.token, hform.separator⟩

/-- Placeholders with different keys are different. -/
theorem IsBraced.placeholder_injective (hform : form.IsBraced) :
    Function.Injective form.placeholder := by
  intro key other h
  rw [hform.placeholder_eq, hform.placeholder_eq] at h
  exact List.append_cancel_left (fragment_injective h)

/-- Where a text stands up to the first closing brace, anything that ends with a closing brace and
begins with less of the text goes on with the rest of it. -/
theorem exists_append_of_prefix {front : Text} (hfront : '\x7d' ∉ front) (hname : '\x7d' ∉ name)
    (h : front ++ other ++ ['\x7d'] <+: name ++ '\x7d' :: rest) :
    ∃ first, name = front ++ first ∧ first <+: other := by
  obtain ⟨behind, hbehind⟩ := h
  rw [List.append_assoc, List.append_assoc] at hbehind
  rcases List.append_eq_append_iff.mp hbehind with ⟨first, rfl, hrest⟩ | ⟨more, rfl, hrest⟩
  · rcases List.append_eq_append_iff.mp hrest with ⟨more, rfl, hmore⟩ | ⟨more, rfl, -⟩
    · cases more with
      | nil => exact ⟨other, by simp, List.prefix_rfl⟩
      | cons c more =>
        -- The brace that ends `other` would be one of the text.
        obtain ⟨rfl, -⟩ := List.cons.inj hmore
        exact absurd (by simp) hname
    · exact ⟨first, rfl, List.prefix_append ..⟩
  · cases more with
    | nil => exact ⟨[], by simp, List.nil_prefix⟩
    | cons c more =>
      obtain ⟨rfl, -⟩ := List.cons.inj hrest
      exact absurd (by simp) hfront

/-- A placeholder that begins with a fragment is no more than the fragment says: the fragment is
itself a placeholder, on one line. -/
theorem IsBraced.of_standsAt_fragment (hform : form.IsBraced) (hname : Placeholder.IsPlain name)
    (h : form.StandsAt (fragment name ++ rest) other) :
    ∃ key, fragment name = form.placeholder key ∧ '\n' ∉ key ∧ key.length ≤ other.length := by
  have hstands := h.stands
  rw [hform.placeholder_eq, fragment, fragment, List.cons_append, List.cons_append,
    List.cons_append, List.append_assoc name] at hstands
  obtain ⟨key, rfl, hkey⟩ := exists_append_of_prefix
    hform.isPlain_front.not_mem_closing hname.not_mem_closing (List.cons_prefix_cons.mp hstands).2
  exact ⟨key, (hform.placeholder_eq key).symm, fun hmem => h.line (hkey.subset hmem),
    hkey.length_le⟩

/-- A fragment that is a placeholder on one line is the one that the text begins with. -/
theorem IsBraced.begins (hform : form.IsBraced) (hkey : Placeholder.IsPlain key)
    (hline : '\n' ∉ key) (rest : Text) : form.Begins (form.placeholder key ++ rest) key := by
  have hname : Placeholder.IsPlain (form.token ++ form.separator ++ key) :=
    List.forall_mem_append.mpr ⟨hform.isPlain_front, hkey⟩
  refine ⟨⟨List.prefix_append .., hline, ?_⟩, fun other hother => ?_⟩
  · rw [hform.placeholder_eq, fragment, List.cons_append]
    exact List.cons_ne_nil _ _
  · rw [hform.placeholder_eq] at hother
    obtain ⟨found, hfound, -, hlength⟩ := hform.of_standsAt_fragment hname hother
    rw [← hform.placeholder_eq] at hfound
    exact hform.placeholder_injective hfound ▸ hlength

/-! ## Pieces of an unnested text -/

/-- A placeholder begins with an opening brace, and a closing one is behind that. -/
theorem IsBraced.braces_of_standsAt (hform : form.IsBraced) {c : Char}
    (h : form.StandsAt (c :: text) other) : c = '\x7b' ∧ '\x7d' ∈ text := by
  have hstands := h.stands
  rw [hform.placeholder_eq, fragment, List.cons_append, List.cons_prefix_cons] at hstands
  exact ⟨hstands.1.symm, hstands.2.subset (by simp)⟩

theorem IsBraced.pieces_cons (hform : form.IsBraced) {c : Char}
    (h : c ≠ '\x7b' ∨ Placeholder.IsPlain text) :
    form.pieces (c :: text) = .plain c :: form.pieces text := by
  refine pieces_plain fun other hother => ?_
  obtain ⟨hc, hmem⟩ := hform.braces_of_standsAt hother
  rcases h with hne | hplain
  · exact hne hc
  · exact hplain.not_mem_closing hmem

/-- Text without an opening brace is cut into its characters. -/
theorem IsBraced.pieces_append (hform : form.IsBraced) {front : Text} (hfront : '\x7b' ∉ front)
    (text : Text) : form.pieces (front ++ text) = front.map .plain ++ form.pieces text := by
  induction front with
  | nil => rfl
  | cons c front ih =>
    rw [List.mem_cons, not_or] at hfront
    rw [List.cons_append, hform.pieces_cons (.inl (Ne.symm hfront.1)), ih hfront.2]
    rfl

/-- A fragment that is no placeholder on one line is cut into its characters. -/
theorem IsBraced.pieces_foreign (hform : form.IsBraced) (hname : Placeholder.IsPlain name)
    (h : ∀ key, fragment name = form.placeholder key → '\n' ∈ key) (rest : Text) :
    form.pieces (fragment name ++ rest) = (fragment name).map .plain ++ form.pieces rest := by
  have hinner : '\x7b' ∉ name ++ ['\x7d'] := by
    rw [List.mem_append, not_or]
    exact ⟨hname.not_mem_opening, by decide⟩
  have hnone : ∀ other, ¬ form.StandsAt ('\x7b' :: (name ++ ['\x7d'] ++ rest)) other := by
    intro other hother
    obtain ⟨key, hkey, hline, -⟩ := hform.of_standsAt_fragment hname hother
    exact hline (h key hkey)
  have hfirst := pieces_plain hnone
  rw [hform.pieces_append hinner rest] at hfirst
  exact hfirst

/-! ## Literal filters for the entries -/

/-- For each entry a literal filter for its placeholder, with its value as a constant. -/
def literals (form : KeyedForm) (entries : List (Text × Value)) : Rack :=
  entries.map fun (key, value) =>
    { kind := .literal (form.placeholder key), replacer := some (.constant value) }

theorem map_token_literals (form : KeyedForm) (entries : List (Text × Value)) :
    (form.literals entries).map Filter.token
      = entries.map fun entry => form.placeholder entry.1 := by
  rw [literals, List.map_map]
  rfl

/-- Nothing is put in the place of a fragment that belongs to no entry. -/
theorem replacement?_literals_of_forall_ne {found : Text}
    (h : ∀ entry ∈ entries, form.placeholder entry.1 ≠ found) :
    (form.literals entries).replacement? found = none := by
  rw [Rack.replacement?, List.findSome?_eq_none_iff]
  intro f hf
  obtain ⟨entry, hentry, rfl⟩ := List.mem_map.mp hf
  exact if_neg (h entry hentry)

/-- In the place of a placeholder, the literal filters put the value that a look-up finds. -/
theorem IsBraced.replacement?_literals (hform : form.IsBraced)
    (hdistinct : (entries.map Prod.fst).Nodup) (key : Text) :
    (form.literals entries).replacement? (form.placeholder key)
      = (entries.find? fun entry => entry.1 == key).bind fun entry =>
          Replacement.accepted? (Replacement.ofValue entry.2) := by
  induction entries with
  | nil => rfl
  | cons entry entries ih =>
    obtain ⟨first, value⟩ := entry
    rw [List.map_cons, List.nodup_cons] at hdistinct
    have hcons : (form.literals ((first, value) :: entries)).replacement? (form.placeholder key)
        = (if form.placeholder first = form.placeholder key
            then Replacement.accepted? (Replacement.ofValue value) else none).or
          ((form.literals entries).replacement? (form.placeholder key)) :=
      Rack.replacement?_cons _ _ _
    rw [hcons]
    by_cases hfirst : first = key
    · subst hfirst
      have hnone : (form.literals entries).replacement? (form.placeholder first) = none := by
        refine replacement?_literals_of_forall_ne fun entry hentry hsame => hdistinct.1 ?_
        exact List.mem_map.mpr ⟨entry, hentry, hform.placeholder_injective hsame⟩
      have hfind : ((first, value) :: entries).find? (fun entry => entry.1 == first)
          = some (first, value) := List.find?_cons_of_pos (by simp)
      rw [if_pos rfl, hnone, Option.or_none, hfind]
      rfl
    · rw [if_neg fun hsame => hfirst (hform.placeholder_injective hsame), Option.none_or,
        List.find?_cons_of_neg (by simpa using hfirst), ih hdistinct.2]

/-! ## One pass on both sides -/

/-- Names under which a table can be asked: some text without braces on one line. -/
def IsKey (key : Text) : Prop :=
  key ≠ [] ∧ Placeholder.IsPlain key ∧ '\n' ∉ key

theorem flatMap_resolved_plain (form : KeyedForm) (entries : List (Text × Value)) (text : Text) :
    (text.map Piece.plain).flatMap (Filter.resolved form entries) = text := by
  induction text with
  | nil => rfl
  | cons c text ih =>
    rw [List.map_cons, List.flatMap_cons, ih]
    rfl

/-- A piece with a key becomes the replacement of its placeholder, or stays. -/
theorem IsBraced.resolved_keyed (hform : form.IsBraced)
    (hkeys : ∀ entry ∈ entries, IsKey entry.1) (hdistinct : (entries.map Prod.fst).Nodup)
    (key : Text) :
    Filter.resolved form entries (.keyed key)
      = ((form.literals entries).replacement? (form.placeholder key)).getD
          (form.placeholder key) := by
  cases key with
  | nil =>
    have hnone : (form.literals entries).replacement? (form.placeholder []) = none := by
      refine replacement?_literals_of_forall_ne fun entry hentry hsame => ?_
      exact (hkeys entry hentry).1 (hform.placeholder_injective hsame)
    rw [hnone]
    rfl
  | cons c key =>
    rw [hform.replacement?_literals hdistinct, Filter.resolved]
    · cases entries.find? fun entry => entry.1 == c :: key <;> rfl
    · exact List.cons_ne_nil c key

/-- Over an unnested text, the pass with a look-up is the pass that fills the fragments of the
entries. -/
theorem IsBraced.flatMap_resolved (hform : form.IsBraced)
    (hkeys : ∀ entry ∈ entries, IsKey entry.1) (hdistinct : (entries.map Prod.fst).Nodup)
    (shape : Shaped text) :
    (form.pieces text).flatMap (Filter.resolved form entries)
      = fill (form.literals entries).replacement? text := by
  induction shape with
  | nil => rfl
  | char hc _ ih =>
    rw [hform.pieces_cons (.inl hc), List.flatMap_cons, ih, fill_char hc]
    rfl
  | @opening text hplain =>
    have hpieces := hform.pieces_append hplain.not_mem_opening []
    rw [List.append_nil] at hpieces
    rw [hform.pieces_cons (.inr hplain), hpieces, fill_opening hplain, List.flatMap_cons,
      List.flatMap_append, flatMap_resolved_plain]
    exact congrArg ('\x7b' :: ·) (List.append_nil text)
  | @fragment name text hname _ ih =>
    by_cases hplaceholder : ∃ key, fragment name = form.placeholder key ∧ '\n' ∉ key
    · obtain ⟨key, hfound, hline⟩ := hplaceholder
      have hkey : Placeholder.IsPlain key := by
        rw [hform.placeholder_eq] at hfound
        exact (List.forall_mem_append.mp (fragment_injective hfound ▸ hname)).2
      rw [hfound, pieces_placeholder (hform.begins hkey hline text), List.flatMap_cons, ih,
        hform.resolved_keyed hkeys hdistinct, ← hfound]
      cases hnew : (form.literals entries).replacement? (fragment name) with
      | some new => rw [fill_fragment_of_some hname hnew, Option.getD_some]
      | none => rw [fill_fragment_of_none hname hnew, Option.getD_none]
    · have hforeign : ∀ key, fragment name = form.placeholder key → '\n' ∈ key :=
        fun key hfound => Classical.byContradiction fun hline => hplaceholder ⟨key, hfound, hline⟩
      have hnone : (form.literals entries).replacement? (fragment name) = none :=
        replacement?_literals_of_forall_ne fun entry hentry hsame =>
          (hkeys entry hentry).2.2 (hforeign entry.1 hsame.symm)
      rw [hform.pieces_foreign hname hforeign, List.flatMap_append, flatMap_resolved_plain, ih,
        fill_fragment_of_none hname hnone]

end KeyedForm

/-- The replacement that a scalar gives is its text. -/
theorem Replacement.eq_toText_of_accepted? {scalar : Scalar} {new : Text}
    (h : accepted? (ofValue scalar.toValue) = some new) : new = scalar.toValue.toText := by
  have htext : ofValue scalar.toValue = some scalar.toValue.toText := by cases scalar <;> rfl
  rw [htext, accepted?] at h
  split at h
  case isTrue => exact (Option.some.inj h).symm
  case isFalse => cases h

namespace Rack

variable {spec : KeyedSpec} {template : Text} {others : Rack}

/-- For each entry of a keyed description a literal filter for its placeholder, with its value as a
constant. -/
def literalFilters (spec : KeyedSpec) : Rack :=
  spec.form.literals (spec.values.map fun (key, value) => (key, value.toValue))

/-- The literal filters put texts without braces in the places of whole fragments. -/
theorem isSettled_literalFilters (hform : spec.form.IsBraced)
    (hkeys : ∀ entry ∈ spec.values, KeyedForm.IsKey entry.1)
    (hplain : ∀ entry ∈ spec.values, IsPlain entry.2.toValue.toText) :
    ∀ f ∈ literalFilters spec, f.IsSettled := by
  intro f hf
  obtain ⟨_, hmem, rfl⟩ := List.mem_map.mp hf
  obtain ⟨entry, hentry, rfl⟩ := List.mem_map.mp hmem
  have hname : IsPlain (spec.form.token ++ spec.form.separator ++ entry.1) :=
    List.forall_mem_append.mpr ⟨hform.isPlain_front, (hkeys entry hentry).2.1⟩
  refine ⟨nofun, ⟨_, hname, hform.placeholder_eq entry.1⟩, fun _ _ hreplacer => ?_,
    fun new hnew => ?_⟩
  · exact ⟨_, (Option.some.inj hreplacer).symm⟩
  · exact Replacement.eq_toText_of_accepted? hnew ▸ hplain entry hentry

/-- **Keyed and literal filters agree.** A keyed filter with placeholders in braces, for a table
from keys to texts without braces, makes of an unnested template what the literal filters for the
entries make of it, one for each entry and in any order: every placeholder with a value that may be
put in is replaced in one pass, and all else stays. -/
theorem apply_keyedFilter_literals (hform : spec.form.IsBraced)
    (hkeys : ∀ entry ∈ spec.values, KeyedForm.IsKey entry.1)
    (hplain : ∀ entry ∈ spec.values, IsPlain entry.2.toValue.toText)
    (hdistinct : (spec.values.map Prod.fst).Nodup) (hflat : Unnested template)
    (hperm : others.Perm (literalFilters spec)) :
    ((keyedFilter spec).apply template).result
        = .ok (fill (literalFilters spec).replacement? template) ∧
      (others.substitute template).result
        = .ok (fill (literalFilters spec).replacement? template) := by
  have hnames : ((spec.values.map fun (key, value) => (key, value.toValue)).map Prod.fst)
      = spec.values.map Prod.fst := by
    rw [List.map_map]
    rfl
  constructor
  · refine (Filter.actsAs_lookup _ _ _ template).1.trans (congrArg Except.ok ?_)
    refine hform.flatMap_resolved (fun entry hentry => ?_) (hnames ▸ hdistinct) hflat.shaped
    obtain ⟨original, horiginal, rfl⟩ := List.mem_map.mp hentry
    exact hkeys original horiginal
  · have htokens : ((literalFilters spec).map Filter.token).Nodup := by
      have hinjective := List.Nodup.map hform.placeholder_injective hdistinct
      rw [List.map_map] at hinjective
      rw [literalFilters, KeyedForm.map_token_literals, List.map_map]
      exact hinjective
    have hsettled := isSettled_literalFilters hform hkeys hplain
    rw [← replacement?_perm hperm htokens]
    exact substitute_eq_fill (fun f hf => hsettled f (hperm.mem_iff.mp hf)) hflat.shaped

/-- A number, a text and a word for nothing, in a template with an empty key, an unknown one, one
that is not on one line, and braces that belong to no placeholder. -/
theorem apply_keyedFilter_literals_three :
    let spec : KeyedSpec :=
      { values := [("a".toList, .int (-7)), ("b c".toList, .text "x".toList),
          ("d".toList, .text "None".toList)] }
    let placeholder : String → Text := fun key => spec.form.placeholder key.toList
    let left := placeholder "" ++ placeholder "d" ++ placeholder "e" ++ placeholder "a\n"
      ++ fragment ['a'] ++ ['\x7b']
    let template := '\x7d' :: placeholder "b c" ++ placeholder "a" ++ left
    Unnested template ∧ (spec.values.map Prod.fst).Nodup ∧
      ((keyedFilter spec).apply template).result = .ok ("\x7dx-7".toList ++ left) ∧
      (substitute (literalFilters spec).reverse template).result
        = .ok ("\x7dx-7".toList ++ left) := by
  intro spec placeholder left template
  have hform : spec.form.IsBraced := ⟨rfl, rfl, by decide, by decide⟩
  have hkeys : ∀ entry ∈ spec.values, KeyedForm.IsKey entry.1 := by
    simp only [spec, List.forall_mem_cons, KeyedForm.IsKey]
    decide
  have hplain : ∀ entry ∈ spec.values, IsPlain entry.2.toValue.toText := by
    simp only [spec, List.forall_mem_cons]
    decide
  have hdistinct : (spec.values.map Prod.fst).Nodup := by decide
  have hflat : Unnested template := by decide
  have hboth := apply_keyedFilter_literals hform hkeys hplain hdistinct hflat
    (literalFilters spec).reverse_perm
  have hfilled : fill (literalFilters spec).replacement? template
      = "\x7dx-7".toList ++ left := by decide +kernel
  rw [hfilled] at hboth
  exact ⟨hflat, hdistinct, hboth⟩

end Rack

end Formulary
