/-
Formulary.Proofs.SubstitutionOrder — literal filters may be applied in any order.

A rack replaces one token after the other, each time in the whole text that the filter before has
left. For placeholders in braces with distinct names, and with replacements that hold no braces, no
replacement makes, breaks or merges a placeholder for the filters behind it. So the run is a single
pass over the template, and the single pass asks for replacements by token, which does not depend on
the order of the filters.
-/
import Formulary.Proofs.Fragments
import Formulary.Proofs.Running

namespace Formulary

open Placeholder

/-! ## What a filter would put in -/

/-- The text that the filter puts in the place of its token when it is applied next, if it has one
that may be put there. Staged text comes before the replacer's answer, and without a replacer there
is nothing. -/
def Filter.replacement? (f : Filter) : Option Text :=
  match f.replacer with
  | none => none
  | some replacer =>
    if f.staged.isEmpty then
      (replacer.answer f.calls none).toOption.bind fun value =>
        Replacement.accepted? (Replacement.ofValue value)
    else Replacement.accepted? (some f.staged)

/-- The replacement of one filter, by token. -/
def Filter.lookup (f : Filter) (token : Text) : Option Text :=
  if f.token = token then f.replacement? else none

/-- The text that a rack puts in the place of a token: that of the first filter for the token which
has one. -/
def Rack.replacement? (rack : Rack) (token : Text) : Option Text :=
  rack.findSome? fun f => f.lookup token

/-- A filter for a placeholder in braces which puts in no braces: its text is staged, or its
replacer, if it has one, is a constant. -/
structure Filter.IsSettled (f : Filter) : Prop where
  notKeyed : ∀ form, f.kind ≠ .keyed form
  token_eq : ∃ name, IsPlain name ∧ f.token = fragment name
  constant : f.staged = [] →
    ∀ replacer, f.replacer = some replacer → ∃ value, replacer = Replacer.constant value
  plain : ∀ new, f.replacement? = some new → IsPlain new

namespace Filter

variable {f : Filter} {token new : Text}

theorem lookup_eq_some_iff :
    f.lookup token = some new ↔ f.token = token ∧ f.replacement? = some new := by
  unfold lookup
  split
  case isTrue h => simp [h]
  case isFalse h => simp [h]

/-- Putting a replacement for a fragment in, if it may be used, is a pass over the text. -/
theorem substitute_fragment {name : Text} (hname : IsPlain name) (replacement : Option Text)
    (text : Text) :
    (substitute (fragment name) replacement text).1
      = fill (fun token =>
          if fragment name = token then Replacement.accepted? replacement else none) text := by
  unfold substitute
  cases Replacement.accepted? replacement with
  | none => exact (fill_of_forall_none (fun token => by simp) text).symm
  | some new =>
    refine (replaceAll_fragment hname new text).trans ?_
    congr 1
    funext token
    simp only [only, eq_comm]

/-- Applying a filter for a placeholder in braces never fails, and is a pass over the text, if what
it puts in is staged or constant. -/
theorem apply_eq_fill_of_constant {name : Text} (hname : IsPlain name)
    (htoken : f.token = fragment name) (hkeyed : ∀ form, f.kind ≠ .keyed form)
    (hconstant : f.staged = [] →
      ∀ replacer, f.replacer = some replacer → ∃ value, replacer = Replacer.constant value)
    (text : Text) : (f.apply text).result = .ok (fill f.lookup text) := by
  unfold apply
  cases hreplacer : f.replacer with
  | none =>
    -- Without a replacer the filter never puts anything in.
    have hnone : ∀ token, f.lookup token = none := by
      intro token
      simp [lookup, replacement?, hreplacer]
    exact congrArg Except.ok (fill_of_forall_none hnone text).symm
  | some replacer =>
    -- Either way the replacement that is fetched is the one that the look-up finds.
    have hfetch : ∃ replacement, (f.fetchReplacement replacer).result = .ok replacement ∧
        f.replacement? = Replacement.accepted? replacement := by
      rw [fetchReplacement, replacement?, hreplacer]
      split
      case isTrue hstaged =>
        obtain ⟨value, rfl⟩ := hconstant (List.isEmpty_iff.mp hstaged) replacer hreplacer
        exact ⟨_, rfl, rfl⟩
      case isFalse => exact ⟨_, rfl, rfl⟩
    obtain ⟨replacement, hresult, haccepted⟩ := hfetch
    have hlookup : f.lookup = fun token =>
        if fragment name = token then Replacement.accepted? replacement else none := by
      funext token
      rw [lookup, htoken, haccepted]
    have hpass := substitute_fragment hname replacement text
    rw [← hlookup, ← htoken] at hpass
    cases hkind : f.kind with
    | keyed form => exact absurd hkind (hkeyed form)
    | literal | overridable =>
      simp only [hresult]
      exact congrArg Except.ok hpass

/-- Applying a settled filter never fails, and is a pass over the text. -/
theorem apply_eq_fill (hf : f.IsSettled) (text : Text) :
    (f.apply text).result = .ok (fill f.lookup text) := by
  obtain ⟨name, hname, htoken⟩ := hf.token_eq
  exact apply_eq_fill_of_constant hname htoken hf.notKeyed hf.constant text

end Filter

namespace Rack

theorem replacement?_cons (f : Filter) (rest : Rack) (token : Text) :
    replacement? (f :: rest) token = (f.lookup token).or (replacement? rest token) := by
  rw [replacement?, List.findSome?_cons]
  cases f.lookup token with
  | none => rfl
  | some new => rfl

/-- A pass of settled filters over a filled text fills, in the one text, what was filled before and
then what the filters have. -/
theorem pass_fill {rack : Rack} (hrack : ∀ f ∈ rack, f.IsSettled) (before : Text → Option Text)
    (hbefore : ∀ token new, before token = some new → IsPlain new) {text : Text}
    (shape : Shaped text) :
    (pass rack (fill before text)).1
      = .ok (fill (fun token => (before token).or (rack.replacement? token)) text) := by
  induction rack generalizing before with
  | nil => simp [pass, replacement?]
  | cons f rest ih =>
    obtain ⟨hf, hrest⟩ := List.forall_mem_cons.mp hrack
    rw [pass, Filter.apply_eq_fill hf, fill_fill shape hbefore]
    have hplain : ∀ token new, (before token).or (f.lookup token) = some new → IsPlain new := by
      intro token new h
      rcases Option.or_eq_some_iff.mp h with h | ⟨-, h⟩
      · exact hbefore token new h
      · exact hf.plain new (Filter.lookup_eq_some_iff.mp h).2
    -- What is filled before the rest now includes what this filter has.
    refine (ih hrest _ hplain).trans ?_
    congr 2
    funext token
    rw [Option.or_assoc, replacement?_cons]

/-- With distinct tokens, the replacement for a token is that of the one filter for it. -/
theorem replacement?_eq_some_iff {rack : Rack} (hdistinct : (rack.map Filter.token).Nodup)
    {token new : Text} :
    rack.replacement? token = some new ↔
      ∃ f ∈ rack, f.token = token ∧ f.replacement? = some new := by
  constructor
  · intro h
    obtain ⟨f, hf, hlookup⟩ := List.exists_of_findSome?_eq_some h
    exact ⟨f, hf, Filter.lookup_eq_some_iff.mp hlookup⟩
  · rintro ⟨f, hf, rfl, hnew⟩
    induction rack with
    | nil => exact absurd hf List.not_mem_nil
    | cons g rest ih =>
      rw [List.map_cons, List.nodup_cons] at hdistinct
      rw [replacement?_cons]
      rcases List.mem_cons.mp hf with rfl | hf
      · rw [Filter.lookup_eq_some_iff.mpr ⟨rfl, hnew⟩, Option.some_or]
      · have hne : g.token ≠ f.token := fun h => hdistinct.1 (h ▸ List.mem_map_of_mem hf)
        rw [Filter.lookup, if_neg hne, Option.none_or]
        exact ih hdistinct.2 hf

/-- Racks with the same filters, one for each token, have the same replacements. -/
theorem replacement?_perm {rack others : Rack} (hperm : others.Perm rack)
    (hdistinct : (rack.map Filter.token).Nodup) : others.replacement? = rack.replacement? := by
  have hothers : (others.map Filter.token).Nodup := (hperm.map Filter.token).nodup_iff.mpr hdistinct
  funext token
  apply Option.ext
  intro new
  rw [replacement?_eq_some_iff hothers, replacement?_eq_some_iff hdistinct]
  simp only [hperm.mem_iff]

/-- What a rack of settled filters puts in is plain. -/
theorem isPlain_of_replacement? {rack : Rack} (hrack : ∀ f ∈ rack, f.IsSettled) {token new : Text}
    (h : rack.replacement? token = some new) : IsPlain new := by
  obtain ⟨f, hf, hlookup⟩ := List.exists_of_findSome?_eq_some h
  exact (hrack f hf).plain new (Filter.lookup_eq_some_iff.mp hlookup).2

/-- Substituting with settled filters is one pass over the template. -/
theorem substitute_eq_fill {rack : Rack} (hrack : ∀ f ∈ rack, f.IsSettled) {template : Text}
    (shape : Shaped template) :
    (rack.substitute template).result = .ok (fill rack.replacement? template) := by
  have h := pass_fill hrack (fun _ => none) (fun _ _ => nofun) shape
  rw [fill_of_forall_none (fun _ => rfl)] at h
  simpa only [Option.none_or] using (substitute_eq_pass rack template).1.trans h

/-- **Order independence.** In every order, settled filters for distinct placeholders turn an
unnested template into the same text: the template with each placeholder that has a replacement
replaced in one pass. The placeholders that are left are the template's own ones, in their order,
without those that were replaced. -/
theorem substitute_perm {rack others : Rack} {template : Text} (hflat : Unnested template)
    (hrack : ∀ f ∈ rack, f.IsSettled) (hdistinct : (rack.map Filter.token).Nodup)
    (hperm : others.Perm rack) :
    (others.substitute template).result = .ok (fill rack.replacement? template) ∧
      unresolved (fill rack.replacement? template)
        = (unresolved template).filter fun token => (rack.replacement? token).isNone := by
  constructor
  · rw [← replacement?_perm hperm hdistinct]
    exact substitute_eq_fill (fun f hf => hrack f (hperm.mem_iff.mp hf)) hflat.shaped
  · exact unresolved_fill hflat.shaped fun _ _ => isPlain_of_replacement? hrack

/-- A constant, a staged text in front of a constant, and a staged word for nothing, applied in
reverse: the first two placeholders are replaced, the third one and an unknown one are left. -/
theorem substitute_perm_three :
    let rack : Rack :=
      [ { kind := .literal (fragment ['a']), replacer := some (.constant (.bool true)) },
        { kind := .overridable (fragment ['b']) ['7'], replacer := some (.constant .null) },
        { kind := .overridable (fragment ['c']) "null".toList,
          replacer := some (.constant .null) } ]
    let template := fragment ['b'] ++ fragment ['c'] ++ fragment ['a'] ++ fragment ['d']
    Unnested template ∧ (rack.map Filter.token).Nodup ∧ rack.reverse.Perm rack ∧
      (substitute rack.reverse template).result
        = .ok ('7' :: fragment ['c'] ++ "true".toList ++ fragment ['d']) := by
  intro rack template
  have hflat : Unnested template := by decide
  have hdistinct : (rack.map Filter.token).Nodup := by decide
  have hrack : ∀ f ∈ rack, f.IsSettled := by
    simp only [rack, List.forall_mem_cons]
    refine ⟨⟨nofun, ⟨['a'], by decide, rfl⟩, ?_, ?_⟩, ⟨nofun, ⟨['b'], by decide, rfl⟩, ?_, ?_⟩,
      ⟨nofun, ⟨['c'], by decide, rfl⟩, ?_, nofun⟩, nofun⟩
    · exact fun _ _ h => ⟨_, (Option.some.inj h).symm⟩
    · exact fun _ h => Option.some.inj h ▸ by decide
    · exact fun _ _ h => ⟨_, (Option.some.inj h).symm⟩
    · exact fun _ h => Option.some.inj h ▸ by decide
    · exact fun _ _ h => ⟨_, (Option.some.inj h).symm⟩
  refine ⟨hflat, hdistinct, rack.reverse_perm, ?_⟩
  exact (substitute_perm hflat hrack hdistinct rack.reverse_perm).1

end Rack

end Formulary
