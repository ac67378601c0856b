/-
Formulary.Proofs.Expansion — placeholders that stand for texts with placeholders.

The replacement of a placeholder may hold placeholders itself. What a template then stands for is
its full expansion: every fragment that has a replacement is replaced by the expansion of that, and
all else stays. A rack makes a single pass for each of its filters, and so it expands completely
only if the filters are in the right order: whatever a replacement refers to belongs to a filter
further behind. `Expands` is the expansion as a relation, which says nothing of filters and their
order; the order is what makes it end.

Replacements are texts in which every brace belongs to a fragment. They leave the shape of a text
alone when they are put in, so no pass makes or breaks a fragment for the passes behind it.
-/
import Formulary.Proofs.SubstitutionOrder

namespace Formulary

namespace Placeholder

variable {new? other? first second : Text → Option Text} {s t out other name found new : Text}

/-- A text begins with one fragment at most. -/
theorem fragment_append_inj (hname : IsPlain name) (hother : IsPlain other)
    (h : fragment name ++ s = fragment other ++ t) : name = other ∧ s = t := by
  have hat : some (fragment name) = some (fragment other) := by
    rw [← fragmentAt?_fragment hname s, h, fragmentAt?_fragment hother t]
  obtain rfl := fragment_injective (Option.some.inj hat)
  exact ⟨rfl, List.append_cancel_left h⟩

/-- An opening brace with plain text behind it begins no fragment. -/
theorem fragment_append_ne (hname : IsPlain name) (ht : IsPlain t) :
    fragment name ++ s ≠ '\x7b' :: t := by
  intro h
  have hat := fragmentAt?_fragment hname s
  rw [h, fragmentAt?_opening ht] at hat
  cases hat

/-! ## Texts of whole fragments -/

/-- Every brace of the text belongs to a fragment: the text is made up of other characters and of
whole fragments. -/
inductive Tiled : Text → Prop
  | nil : Tiled []
  | char {c : Char} {t : Text} : isBrace c = false → Tiled t → Tiled (c :: t)
  | fragment {name t : Text} : IsPlain name → Tiled t → Tiled (fragment name ++ t)

theorem IsPlain.tiled (ht : IsPlain t) : Tiled t := by
  induction t with
  | nil => exact .nil
  | cons c t ih =>
    obtain ⟨hc, ht⟩ := isPlain_cons.mp ht
    exact .char hc (ih ht)

theorem Tiled.append (hs : Tiled s) (ht : Tiled t) : Tiled (s ++ t) := by
  induction hs with
  | nil => exact ht
  | char hc _ ih => exact .char hc ih
  | fragment hname _ ih =>
    rw [List.append_assoc]
    exact .fragment hname ih

/-- Whole fragments may stand in front. -/
theorem Tiled.append_shaped (hs : Tiled s) (ht : Shaped t) : Shaped (s ++ t) := by
  induction hs with
  | nil => exact ht
  | char hc _ ih => exact .char (isBrace_eq_false.mp hc).1 ih
  | fragment hname _ ih =>
    rw [List.append_assoc]
    exact .fragment hname ih

/-- The fragments of whole fragments in front come first. -/
theorem Tiled.occurrences_append (hs : Tiled s) (t : Text) :
    occurrences (s ++ t) = occurrences s ++ occurrences t := by
  induction hs with
  | nil => rfl
  | char hc _ ih =>
    have hc := (isBrace_eq_false.mp hc).1
    rw [List.cons_append, occurrences_char hc, occurrences_char hc, ih]
  | fragment hname _ ih =>
    rw [List.append_assoc, occurrences_fragment hname, occurrences_fragment hname, ih]
    rfl

theorem Tiled.of_char {c : Char} (hc : c ≠ '\x7b') (h : Tiled (c :: t)) :
    isBrace c = false ∧ Tiled t := by
  generalize hs : c :: t = s at h
  cases h with
  | nil => cases hs
  | char hplain ht =>
    cases hs
    exact ⟨hplain, ht⟩
  | fragment =>
    cases hs
    exact absurd rfl hc

theorem Tiled.of_fragment (hname : IsPlain name) (h : Tiled (Placeholder.fragment name ++ t)) :
    Tiled t := by
  generalize hs : Placeholder.fragment name ++ t = s at h
  cases h with
  | nil => cases hs
  | char hplain =>
    cases hs
    exact absurd rfl (isBrace_eq_false.mp hplain).1
  | fragment hother ht =>
    obtain ⟨-, rfl⟩ := fragment_append_inj hname hother hs
    exact ht

theorem not_tiled_opening (ht : IsPlain t) : ¬ Tiled ('\x7b' :: t) := by
  intro h
  generalize hs : '\x7b' :: t = s at h
  cases h with
  | nil => cases hs
  | char hplain =>
    cases hs
    exact absurd rfl (isBrace_eq_false.mp hplain).1
  | fragment hname => exact fragment_append_ne hname ht hs.symm

/-- Putting whole fragments in the places of fragments keeps the shape of a text. -/
theorem Shaped.fill (shape : Shaped t) (htiled : ∀ found new, new? found = some new → Tiled new) :
    Shaped (fill new? t) := by
  induction shape with
  | nil => exact .nil
  | char hc _ ih =>
    rw [fill_char hc]
    exact .char hc ih
  | opening ht =>
    rw [fill_opening ht]
    exact .opening ht
  | @fragment name t hname _ ih =>
    cases hnew : new? (Placeholder.fragment name) with
    | some new =>
      rw [fill_fragment_of_some hname hnew]
      exact (htiled _ new hnew).append_shaped ih
    | none =>
      rw [fill_fragment_of_none hname hnew]
      exact .fragment hname ih

/-! ## Expansion -/

/-- The full expansion of a text: a fragment with a replacement becomes the expansion of its
replacement, a fragment without one stays, and so does every other character. -/
inductive Expands (new? : Text → Option Text) : Text → Text → Prop
  | nil : Expands new? [] []
  | char {c : Char} {t out : Text} (hc : c ≠ '\x7b') (hrest : Expands new? t out) :
      Expands new? (c :: t) (c :: out)
  | opening {t : Text} (ht : IsPlain t) : Expands new? ('\x7b' :: t) ('\x7b' :: t)
  | unknown {name t out : Text} (hname : IsPlain name) (hnone : new? (fragment name) = none)
      (hrest : Expands new? t out) : Expands new? (fragment name ++ t) (fragment name ++ out)
  | known {name new inner t out : Text} (hname : IsPlain name)
      (hnew : new? (fragment name) = some new) (hinner : Expands new? new inner)
      (hrest : Expands new? t out) : Expands new? (fragment name ++ t) (inner ++ out)

namespace Expands

/-! One inversion for each way in which a text goes on. -/

theorem of_nil (h : Expands new? [] out) : out = [] := by
  generalize hs : ([] : Text) = s at h
  cases h with
  | nil => rfl
  | char | opening => cases hs
  | unknown | known => cases hs

theorem of_char {c : Char} (hc : c ≠ '\x7b') (h : Expands new? (c :: t) out) :
    ∃ more, out = c :: more ∧ Expands new? t more := by
  generalize hs : c :: t = s at h
  cases h with
  | nil => cases hs
  | char _ hrest =>
    cases hs
    exact ⟨_, rfl, hrest⟩
  | opening | unknown | known =>
    cases hs
    exact absurd rfl hc

theorem of_opening (ht : IsPlain t) (h : Expands new? ('\x7b' :: t) out) :
    out = '\x7b' :: t := by
  generalize hs : '\x7b' :: t = s at h
  cases h with
  | nil => cases hs
  | char hc =>
    cases hs
    exact absurd rfl hc
  | opening =>
    cases hs
    rfl
  | unknown hname | known hname => exact absurd hs.symm (fragment_append_ne hname ht)

theorem of_fragment (hname : IsPlain name) (h : Expands new? (fragment name ++ t) out) :
    (new? (fragment name) = none ∧
        ∃ more, out = fragment name ++ more ∧ Expands new? t more) ∨
      ∃ new inner more, new? (fragment name) = some new ∧ Expands new? new inner ∧
        out = inner ++ more ∧ Expands new? t more := by
  generalize hs : fragment name ++ t = s at h
  cases h with
  | nil => cases hs
  | char hc =>
    cases hs
    exact absurd rfl hc
  | opening ht => exact absurd hs (fragment_append_ne hname ht)
  | unknown hother hnone hrest =>
    obtain ⟨rfl, rfl⟩ := fragment_append_inj hname hother hs
    exact .inl ⟨hnone, _, rfl, hrest⟩
  | known hother hnew hinner hrest =>
    obtain ⟨rfl, rfl⟩ := fragment_append_inj hname hother hs
    exact .inr ⟨_, _, _, hnew, hinner, rfl, hrest⟩

/-- A text has one expansion at most. -/
theorem unique (h : Expands new? t out) (hother : Expands new? t other) : out = other := by
  induction h generalizing other with
  | nil => exact hother.of_nil.symm
  | char hc _ ih =>
    obtain ⟨more, rfl, hmore⟩ := hother.of_char hc
    rw [ih hmore]
  | opening ht => exact (hother.of_opening ht).symm
  | unknown hname hnone _ ih =>
    rcases hother.of_fragment hname with ⟨-, more, rfl, hmore⟩ | ⟨new, _, _, hnew, -⟩
    · rw [ih hmore]
    · cases hnone.symm.trans hnew
  | known hname hnew _ _ ihinner ihrest =>
    rcases hother.of_fragment hname with ⟨hnone, -⟩ | ⟨new, inner, more, hsome, hinner, rfl, hmore⟩
    · cases hnone.symm.trans hnew
    · cases hnew.symm.trans hsome
      rw [ihinner hinner, ihrest hmore]

/-- The expansion of whole fragments in front comes first. -/
theorem of_append (hs : Tiled s) (h : Expands new? (s ++ t) out) :
    ∃ front more, out = front ++ more ∧ Expands new? s front ∧ Expands new? t more := by
  induction hs generalizing out with
  | nil => exact ⟨[], out, rfl, .nil, h⟩
  | char hc _ ih =>
    have hc := (isBrace_eq_false.mp hc).1
    obtain ⟨rest, rfl, hrest⟩ := h.of_char hc
    obtain ⟨front, more, rfl, hfront, hmore⟩ := ih hrest
    exact ⟨_, more, rfl, .char hc hfront, hmore⟩
  | fragment hname _ ih =>
    rw [List.append_assoc] at h
    rcases h.of_fragment hname with ⟨hnone, rest, rfl, hrest⟩ |
      ⟨new, inner, rest, hnew, hinner, rfl, hrest⟩
    · obtain ⟨front, more, rfl, hfront, hmore⟩ := ih hrest
      exact ⟨_, more, (List.append_assoc ..).symm, .unknown hname hnone hfront, hmore⟩
    · obtain ⟨front, more, rfl, hfront, hmore⟩ := ih hrest
      exact ⟨_, more, (List.append_assoc ..).symm, .known hname hnew hinner hfront, hmore⟩

/-- Where nothing has a replacement, a text is its own expansion. -/
theorem refl (shape : Shaped t) (h : ∀ found, new? found = none) : Expands new? t t := by
  induction shape with
  | nil => exact .nil
  | char hc _ ih => exact .char hc ih
  | opening ht => exact .opening ht
  | fragment hname _ ih => exact .unknown hname (h _) ih

/-- Only the replacements of fragments matter that the expansion comes across. `p` holds of these:
of the fragments of the text, and with a fragment of those of its replacement. -/
theorem congr {p : Text → Prop} (h : Expands new? t out) (htext : ∀ found ∈ occurrences t, p found)
    (hclosed : ∀ found new, p found → new? found = some new → ∀ inner ∈ occurrences new, p inner)
    (hsame : ∀ found, p found → new? found = other? found) : Expands other? t out := by
  induction h with
  | nil => exact .nil
  | char hc _ ih =>
    rw [occurrences_char hc] at htext
    exact .char hc (ih htext)
  | opening ht => exact .opening ht
  | unknown hname hnone _ ih =>
    rw [occurrences_fragment hname, List.forall_mem_cons] at htext
    exact .unknown hname (hsame _ htext.1 ▸ hnone) (ih htext.2)
  | known hname hnew _ _ ihinner ihrest =>
    rw [occurrences_fragment hname, List.forall_mem_cons] at htext
    exact .known hname (hsame _ htext.1 ▸ hnew) (ihinner (hclosed _ _ htext.1 hnew))
      (ihrest htext.2)

/-- The expansion of whole fragments, with whole fragments as replacements, is made up of whole
fragments. -/
theorem tiled (h : Expands new? t out) (htiled : ∀ found new, new? found = some new → Tiled new)
    (ht : Tiled t) : Tiled out := by
  induction h with
  | nil => exact .nil
  | char hc _ ih =>
    obtain ⟨hplain, ht⟩ := ht.of_char hc
    exact .char hplain (ih ht)
  | opening hplain => exact absurd ht (not_tiled_opening hplain)
  | unknown hname _ _ ih => exact .fragment hname (ih (ht.of_fragment hname))
  | known hname hnew _ _ ihinner ihrest =>
    exact (ihinner (htiled _ _ hnew)).append (ihrest (ht.of_fragment hname))

/-- No fragment with a replacement is left in an expansion. -/
theorem eq_none_of_mem (h : Expands new? t out)
    (htiled : ∀ found new, new? found = some new → Tiled new) :
    ∀ found ∈ occurrences out, new? found = none := by
  induction h with
  | nil => exact fun _ hfound => absurd hfound List.not_mem_nil
  | char hc _ ih =>
    rw [occurrences_char hc]
    exact ih
  | opening ht =>
    rw [occurrences_opening ht]
    exact nofun
  | unknown hname hnone _ ih =>
    rw [occurrences_fragment hname]
    exact List.forall_mem_cons.mpr ⟨hnone, ih⟩
  | known hname hnew hinner _ ihinner ihrest =>
    rw [(hinner.tiled htiled (htiled _ _ hnew)).occurrences_append]
    exact List.forall_mem_append.mpr ⟨ihinner, ihrest⟩

/-- **A pass before the expansion.** Expanding what a pass has filled is expanding the text, if the
pass has replacements of whole fragments and these expand with it as they do without it. -/
theorem of_fill (shape : Shaped t) (h : Expands second (fill first t) out)
    (htiled : ∀ found new, first found = some new → Tiled new)
    (hexpands : ∀ found new inner, (first found).or (second found) = some new →
      Expands second new inner → Expands (fun found => (first found).or (second found)) new inner) :
    Expands (fun found => (first found).or (second found)) t out := by
  induction shape generalizing out with
  | nil =>
    rw [h.of_nil]
    exact .nil
  | char hc _ ih =>
    rw [fill_char hc] at h
    obtain ⟨more, rfl, hmore⟩ := h.of_char hc
    exact .char hc (ih hmore)
  | opening ht =>
    rw [fill_opening ht] at h
    rw [h.of_opening ht]
    exact .opening ht
  | @fragment name t hname _ ih =>
    cases hfirst : first (fragment name) with
    | some new =>
      have hboth : (first (fragment name)).or (second (fragment name)) = some new := by
        rw [hfirst, Option.some_or]
      rw [fill_fragment_of_some hname hfirst] at h
      obtain ⟨inner, more, rfl, hinner, hmore⟩ := h.of_append (htiled _ new hfirst)
      exact .known hname hboth (hexpands _ new inner hboth hinner) (ih hmore)
    | none =>
      have hboth : (first (fragment name)).or (second (fragment name))
          = second (fragment name) := by
        rw [hfirst, Option.none_or]
      rw [fill_fragment_of_none hname hfirst] at h
      rcases h.of_fragment hname with ⟨hnone, more, rfl, hmore⟩ |
        ⟨new, inner, more, hnew, hinner, rfl, hmore⟩
      · exact .unknown hname (hboth.trans hnone) (ih hmore)
      · exact .known hname (hboth.trans hnew) (hexpands _ new inner (hboth.trans hnew) hinner)
          (ih hmore)

end Expands

end Placeholder

open Placeholder

/-! ## Filters that define placeholders -/

/-- The filter replaces a placeholder in braces by a constant text that may be put in, in which
every brace belongs to a fragment. -/
structure Filter.Defines (f : Filter) (name new : Text) : Prop where
  plain : IsPlain name
  kind_eq : f.kind = .literal (fragment name)
  constant : ∃ value, f.replacer = some (Replacer.constant value) ∧
    Replacement.accepted? (Replacement.ofValue value) = some new
  tiled : Tiled new

namespace Filter.Defines

variable {f : Filter} {name new : Text}

theorem token_eq (h : f.Defines name new) : f.token = fragment name := by
  rw [Filter.token, h.kind_eq]

theorem replacement?_eq (h : f.Defines name new) : f.replacement? = some new := by
  obtain ⟨value, hreplacer, hnew⟩ := h.constant
  have hstaged : f.staged = [] := by rw [Filter.staged, h.kind_eq]
  rw [replacement?, hreplacer, hstaged]
  exact hnew

/-- Applying such a filter is a pass that fills its placeholder. -/
theorem apply_eq_fill (h : f.Defines name new) (text : Text) :
    (f.apply text).result = .ok (fill f.lookup text) := by
  obtain ⟨value, hreplacer, -⟩ := h.constant
  refine apply_eq_fill_of_constant h.plain h.token_eq ?_ (fun _ replacer hsome => ⟨value, ?_⟩) text
  · intro form hkeyed
    rw [h.kind_eq] at hkeyed
    cases hkeyed
  · exact Option.some.inj (hsome.symm.trans hreplacer)

end Filter.Defines

namespace Rack

variable {rack rest : Rack} {f : Filter} {template : Text}

/-- Every filter defines a placeholder, each a different one, and a replacement refers to filters
further behind only: a fragment in it that is the token of some filter is the token of a later
one. -/
structure IsChained (rack : Rack) : Prop where
  defines : ∀ f ∈ rack, ∃ name new, f.Defines name new
  distinct : (rack.map Filter.token).Nodup
  later : ∀ before f after new, rack = before ++ f :: after → f.replacement? = some new →
    ∀ found ∈ occurrences new, found ∈ rack.map Filter.token → found ∈ after.map Filter.token

namespace IsChained

theorem nil : IsChained [] where
  defines := nofun
  distinct := List.nodup_nil
  later before f after _ hsplit := by simp at hsplit

/-- A filter may be put in front if nothing refers to its token. -/
theorem cons {name new : Text} (hdefines : f.Defines name new) (h : IsChained rest)
    (hfresh : f.token ∉ rest.map Filter.token) (hself : f.token ∉ occurrences new)
    (hrest : ∀ g ∈ rest, ∀ other, g.replacement? = some other → f.token ∉ occurrences other) :
    IsChained (f :: rest) where
  defines := List.forall_mem_cons.mpr ⟨⟨name, new, hdefines⟩, h.defines⟩
  distinct := List.nodup_cons.mpr ⟨hfresh, h.distinct⟩
  later before g after other hsplit hother found hfound hmem := by
    have hne : found ≠ f.token := by
      rintro rfl
      have hg : g ∈ f :: rest := hsplit ▸ List.mem_append_right before List.mem_cons_self
      rcases List.mem_cons.mp hg with rfl | hg
      · rw [hdefines.replacement?_eq] at hother
        exact hself (Option.some.inj hother ▸ hfound)
      · exact hrest g hg other hother hfound
    have hmem : found ∈ rest.map Filter.token := (List.mem_cons.mp hmem).resolve_left hne
    cases before with
    | nil =>
      obtain ⟨rfl, rfl⟩ := List.cons.inj hsplit
      exact hmem
    | cons b before =>
      obtain ⟨rfl, rfl⟩ := List.cons.inj hsplit
      exact h.later before g after other rfl hother found hfound hmem

theorem tail (h : IsChained (f :: rest)) : IsChained rest where
  defines g hg := h.defines g (List.mem_cons_of_mem f hg)
  distinct := (List.nodup_cons.mp h.distinct).2
  later before g after new hrest hnew found hfound hmem :=
    h.later (f :: before) g after new (by rw [hrest, List.cons_append]) hnew found hfound
      (List.mem_cons_of_mem _ hmem)

/-- No replacement refers to the first filter. -/
theorem not_mem_head (h : IsChained (f :: rest)) {g : Filter} (hg : g ∈ f :: rest) {new : Text}
    (hnew : g.replacement? = some new) : f.token ∉ occurrences new := by
  intro hmem
  obtain ⟨before, after, hsplit⟩ := List.append_of_mem hg
  have hafter := h.later before g after new hsplit hnew f.token hmem List.mem_cons_self
  have hrest : after ⊆ rest := by
    cases before with
    | nil =>
      obtain ⟨-, rfl⟩ := List.cons.inj hsplit
      exact fun _ => id
    | cons b before =>
      obtain ⟨-, rfl⟩ := List.cons.inj hsplit
      exact fun _ hx => List.mem_append_right _ (List.mem_cons_of_mem g hx)
  exact (List.nodup_cons.mp h.distinct).1 (List.map_subset Filter.token hrest hafter)

/-- What a chained rack puts in is made up of whole fragments. -/
theorem tiled_of_replacement? (h : IsChained rack) {found new : Text}
    (hnew : rack.replacement? found = some new) : Tiled new := by
  obtain ⟨f, hf, -, hreplacement⟩ := (replacement?_eq_some_iff h.distinct).mp hnew
  obtain ⟨name, other, hdefines⟩ := h.defines f hf
  rw [hdefines.replacement?_eq] at hreplacement
  exact Option.some.inj hreplacement ▸ hdefines.tiled

/-- **A run over a chained rack expands the text.** The first filter puts its replacement in, and
the rest expands what is there then. -/
theorem exists_expands (h : IsChained rack) {text : Text} (shape : Shaped text) :
    ∃ out, (pass rack text).1 = .ok out ∧ Expands rack.replacement? text out := by
  induction rack generalizing text with
  | nil => exact ⟨text, rfl, .refl shape fun _ => rfl⟩
  | cons f rest ih =>
    obtain ⟨name, new, hdefines⟩ := h.defines f List.mem_cons_self
    have htiled : ∀ found new, f.lookup found = some new → Tiled new := by
      intro found other hlookup
      have hother := (Filter.lookup_eq_some_iff.mp hlookup).2
      rw [hdefines.replacement?_eq] at hother
      exact Option.some.inj hother ▸ hdefines.tiled
    obtain ⟨out, hout, hexpands⟩ := ih h.tail (shape.fill htiled)
    refine ⟨out, ?_, ?_⟩
    · rw [pass, hdefines.apply_eq_fill]
      exact hout
    · rw [funext (replacement?_cons f rest)]
      refine .of_fill shape hexpands htiled fun found other inner hboth hinner => ?_
      -- Nothing refers to the token of `f`, so what the replacements expand to is the same with it.
      have havoids : ∀ found other, replacement? (f :: rest) found = some other →
          ∀ inner ∈ occurrences other, inner ≠ f.token := by
        rintro found other hother _ hmem rfl
        obtain ⟨g, hg, -, hreplacement⟩ := (replacement?_eq_some_iff h.distinct).mp hother
        exact h.not_mem_head hg hreplacement hmem
      have hsame : ∀ found, found ≠ f.token →
          replacement? rest found = replacement? (f :: rest) found := by
        intro found hne
        rw [replacement?_cons, Filter.lookup, if_neg hne.symm, Option.none_or]
      rw [← replacement?_cons] at hboth
      rw [← funext (replacement?_cons f rest)]
      exact hinner.congr (havoids found other hboth)
        (fun found other hne hother => havoids found other (hsame found hne ▸ hother)) hsame

end IsChained

/-- **Chained placeholders expand completely.** A rack in which every replacement refers to filters
further behind turns an unnested template into its full expansion, and none of the tokens is left in
that. -/
theorem substitute_chained (hflat : Unnested template) (hchained : rack.IsChained) :
    ∃ out, (rack.substitute template).result = .ok out ∧
      (∀ other, Expands rack.replacement? template other ↔ other = out) ∧
      ∀ f ∈ rack, ¬ f.token <:+: out := by
  obtain ⟨out, hout, hexpands⟩ := hchained.exists_expands hflat.shaped
  refine ⟨out, (substitute_eq_pass rack template).1.trans hout, fun other => ?_, ?_⟩
  · exact ⟨fun hother => hother.unique hexpands, fun hother => hother ▸ hexpands⟩
  · rintro f hf ⟨before, behind, hleft⟩
    obtain ⟨name, new, hdefines⟩ := hchained.defines f hf
    have hmem : fragment name ∈ occurrences out := by
      rw [← hleft, hdefines.token_eq]
      exact fragment_mem_occurrences hdefines.plain before behind
    have hnone := hexpands.eq_none_of_mem (fun _ _ => hchained.tiled_of_replacement?) _ hmem
    have hsome : rack.replacement? (fragment name) = some new :=
      (replacement?_eq_some_iff hchained.distinct).mpr
        ⟨f, hf, hdefines.token_eq, hdefines.replacement?_eq⟩
    cases hnone.symm.trans hsome

/-- A sum of two placeholders, one of them defined further behind, in a template that also has an
unknown placeholder and braces that belong to none. -/
theorem substitute_chained_sum :
    let rack : Rack :=
      [ { kind := .literal (fragment "total".toList)
          replacer := some (.constant (.text "(\x7ba\x7d + \x7bb\x7d)".toList)) },
        { kind := .literal (fragment ['a']), replacer := some (.constant (.int 4)) } ]
    let template := "\x7d\x7ba\x7d\x7btotal\x7d\x7bx".toList
    let expansion := "\x7d4(4 + \x7bb\x7d)\x7bx".toList
    Unnested template ∧ rack.IsChained ∧ (rack.substitute template).result = .ok expansion ∧
      (∀ other, Expands rack.replacement? template other ↔ other = expansion) ∧
      ∀ f ∈ rack, ¬ f.token <:+: expansion := by
  intro rack template expansion
  have hflat : Unnested template := by decide
  have htotal : Tiled "(\x7ba\x7d + \x7bb\x7d)".toList := by
    refine .char rfl (.fragment (t := " + \x7bb\x7d)".toList) (by decide : IsPlain ['a']) ?_)
    refine .char rfl (.char rfl (.char rfl ?_))
    exact .fragment (t := [')']) (by decide : IsPlain ['b']) (.char rfl .nil)
  have hchained : rack.IsChained := by
    refine .cons ⟨(by decide : IsPlain "total".toList), rfl, ⟨_, rfl, rfl⟩, htotal⟩
      (.cons ⟨(by decide : IsPlain ['a']), rfl, ⟨_, rfl, rfl⟩, IsPlain.tiled ?_⟩ .nil ?_ ?_ nofun)
      ?_ ?_ ?_
    · decide
    · exact List.not_mem_nil
    · decide
    · decide
    · decide
    · intro g hg other hother
      obtain rfl := List.mem_singleton.mp hg
      obtain rfl := Option.some.inj hother
      decide
  obtain ⟨out, hout, hexpands, hclear⟩ := substitute_chained hflat hchained
  have hexpansion : (rack.substitute template).result = .ok expansion := by rfl
  obtain rfl : expansion = out := Except.ok.inj (hexpansion.symm.trans hout)
  exact ⟨hflat, hchained, hexpansion, hexpands, hclear⟩

end Rack

end Formulary
