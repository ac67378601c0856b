/-
Formulary.Proofs.TokenCuts — where a token stands in a template, and what is put there.

A token cuts a template into pieces. The cut is described without a scan: each piece, with the token
behind it, holds the token at its end and nowhere else, and what is left behind the last token does
not hold it at all. So the pieces are the shortest possible ones from the left, also for tokens that
overlap themselves; there is one cut for each template, and it has nothing to do with what is put
in.

Replacing keeps the pieces and changes what stands between them. Whatever the new text holds, and
whatever it forms together with its neighbours, is not looked at again, because the pieces are those
of the template. An empty token has no such cut: it stands before every character and at the end.
-/
import Formulary.Proofs.Applying

namespace Formulary

namespace Text

/-! ## Cuts -/

/-- A text in pieces: each but the last one has something standing behind it. -/
structure Cut where
  pieces : List Text
  last : Text
deriving DecidableEq

/-- The pieces one behind another, with the same text behind each but the last. -/
def Cut.filled (cut : Cut) (between : Text) : Text :=
  cut.pieces.flatMap (· ++ between) ++ cut.last

/-- The token stands behind the piece and nowhere before: the two together hold it at the end
only. -/
def OnlyBehind (token piece : Text) : Prop :=
  ∀ before behind, before ++ token ++ behind = piece ++ token → behind = []

/-- The cut of a text at the tokens in it, taken from the left. -/
structure Cut.IsAt (token text : Text) (cut : Cut) : Prop where
  filled_eq : cut.filled token = text
  onlyBehind : ∀ piece ∈ cut.pieces, OnlyBehind token piece
  last_free : ¬ token <:+: cut.last

variable {token new text piece rest : Text} {cut : Cut}

@[simp] theorem Cut.filled_nil (last between : Text) : filled ⟨[], last⟩ between = last :=
  rfl

@[simp] theorem Cut.filled_cons (piece : Text) (pieces : List Text) (last between : Text) :
    filled ⟨piece :: pieces, last⟩ between = piece ++ between ++ filled ⟨pieces, last⟩ between := by
  simp [filled]

theorem onlyBehind_nil (token : Text) : OnlyBehind token [] := by
  intro before behind h
  have hlength := congrArg List.length h
  simp only [List.length_append, List.length_nil] at hlength
  exact List.eq_nil_of_length_eq_zero (by omega)

/-- One character more in front makes no difference as long as no token begins there. -/
theorem onlyBehind_cons_iff {c : Char} :
    OnlyBehind token (c :: piece) ↔ OnlyBehind token piece ∧ ¬ token <+: c :: (piece ++ token) := by
  constructor
  · intro h
    refine ⟨fun before behind heq => h (c :: before) behind (congrArg (c :: ·) heq), ?_⟩
    rintro ⟨behind, hbehind⟩
    have hnil := h [] behind hbehind
    subst hnil
    have hlength := congrArg List.length hbehind
    simp only [List.length_append, List.length_cons, List.length_nil] at hlength
    omega
  · rintro ⟨hpiece, hbegin⟩ before behind heq
    cases before with
    | nil => exact absurd ⟨behind, heq⟩ hbegin
    | cons b before => exact hpiece before behind (List.cons.inj heq).2

/-! ## There is one cut -/

/-- A text that holds the token begins with a piece that has it behind it for the first time. -/
theorem exists_onlyBehind (h : token <:+: text) :
    ∃ piece rest, piece ++ token ++ rest = text ∧ OnlyBehind token piece := by
  induction text with
  | nil =>
    rw [List.eq_nil_of_infix_nil h]
    exact ⟨[], [], rfl, onlyBehind_nil []⟩
  | cons c text ih =>
    by_cases hbegin : token <+: c :: text
    · obtain ⟨rest, hrest⟩ := hbegin
      exact ⟨[], rest, hrest, onlyBehind_nil token⟩
    · obtain ⟨piece, rest, htext, hpiece⟩ := ih ((List.infix_cons_iff.mp h).resolve_left hbegin)
      refine ⟨c :: piece, rest, congrArg (c :: ·) htext, onlyBehind_cons_iff.mpr ⟨hpiece, ?_⟩⟩
      intro hfront
      refine hbegin (hfront.trans ?_)
      rw [← htext]
      exact ⟨rest, rfl⟩

/-- A piece that is longer than another one of the same text would hold the token where that one
ends. -/
theorem OnlyBehind.length_le {piece' rest' : Text} (h' : OnlyBehind token piece')
    (heq : piece ++ token ++ rest = piece' ++ token ++ rest') : piece'.length ≤ piece.length := by
  refine Nat.le_of_not_lt fun hlonger => ?_
  have hfront : piece ++ token <+: piece' ++ token := by
    refine List.prefix_of_prefix_length_le ⟨rest, rfl⟩ ⟨rest', heq.symm⟩ ?_
    simp only [List.length_append]
    omega
  obtain ⟨behind, hbehind⟩ := hfront
  have hnil := h' piece behind hbehind
  have hlength := congrArg List.length hbehind
  simp only [hnil, List.length_append, List.length_nil] at hlength
  omega

/-- The first piece is determined by the text. -/
theorem OnlyBehind.unique {piece' rest' : Text} (h : OnlyBehind token piece)
    (h' : OnlyBehind token piece') (heq : piece ++ token ++ rest = piece' ++ token ++ rest') :
    piece = piece' ∧ rest = rest' := by
  have hlength : piece.length = piece'.length :=
    Nat.le_antisymm (h.length_le heq.symm) (h'.length_le heq)
  rw [List.append_assoc, List.append_assoc] at heq
  obtain ⟨hpiece, hrest⟩ := List.append_inj heq hlength
  exact ⟨hpiece, List.append_cancel_left hrest⟩

/-- A cut without pieces is the text itself, with no token in it. -/
theorem Cut.isAt_nil_iff {last : Text} :
    IsAt token text ⟨[], last⟩ ↔ last = text ∧ ¬ token <:+: text := by
  constructor
  · intro h
    have hlast : last = text := h.filled_eq
    exact ⟨hlast, hlast ▸ h.last_free⟩
  · rintro ⟨rfl, hfree⟩
    exact ⟨rfl, nofun, hfree⟩

theorem Cut.IsAt.cons {pieces : List Text} {last : Text} (hpiece : OnlyBehind token piece)
    (h : IsAt token rest ⟨pieces, last⟩) :
    IsAt token (piece ++ token ++ rest) ⟨piece :: pieces, last⟩ where
  filled_eq := by rw [filled_cons, h.filled_eq]
  onlyBehind := List.forall_mem_cons.mpr ⟨hpiece, h.onlyBehind⟩
  last_free := h.last_free

/-- A cut with a first piece is one of the rest, with the piece in front. -/
theorem Cut.IsAt.cons_inv {pieces : List Text} {last : Text}
    (h : IsAt token text ⟨piece :: pieces, last⟩) :
    OnlyBehind token piece ∧ ∃ rest, piece ++ token ++ rest = text ∧
      IsAt token rest ⟨pieces, last⟩ := by
  obtain ⟨hpiece, hpieces⟩ := List.forall_mem_cons.mp h.onlyBehind
  exact ⟨hpiece, filled ⟨pieces, last⟩ token, by rw [← filled_cons, h.filled_eq],
    rfl, hpieces, h.last_free⟩

/-- Every text has a cut at a token that is not empty. -/
theorem Cut.exists_isAt (htoken : token ≠ []) (text : Text) : ∃ cut : Cut, cut.IsAt token text := by
  by_cases h : token <:+: text
  · obtain ⟨piece, rest, rfl, hpiece⟩ := exists_onlyBehind h
    -- The token is not empty, so that less is left behind it.
    have hpos := List.length_pos_iff.mpr htoken
    have hshorter : rest.length < (piece ++ token ++ rest).length := by
      simp only [List.length_append]
      omega
    obtain ⟨cut, hcut⟩ := exists_isAt htoken rest
    exact ⟨⟨piece :: cut.pieces, cut.last⟩, hcut.cons hpiece⟩
  · exact ⟨⟨[], text⟩, isAt_nil_iff.mpr ⟨rfl, h⟩⟩
termination_by text.length

/-- A text with a cut in pieces holds the token. -/
theorem Cut.IsAt.infix_of_cons {pieces : List Text} {last : Text}
    (h : IsAt token text ⟨piece :: pieces, last⟩) : token <:+: text := by
  obtain ⟨-, rest, htext, -⟩ := h.cons_inv
  exact ⟨piece, rest, htext⟩

/-- No text has two cuts. -/
theorem Cut.IsAt.unique {cut other : Cut} (h : cut.IsAt token text) (h' : other.IsAt token text) :
    cut = other := by
  obtain ⟨pieces, last⟩ := cut
  obtain ⟨pieces', last'⟩ := other
  induction pieces generalizing text pieces' with
  | nil =>
    obtain ⟨rfl, hfree⟩ := isAt_nil_iff.mp h
    cases pieces' with
    | nil => rw [(isAt_nil_iff.mp h').1]
    | cons => exact absurd h'.infix_of_cons hfree
  | cons piece pieces ih =>
    cases pieces' with
    | nil => exact absurd h.infix_of_cons (isAt_nil_iff.mp h').2
    | cons piece' pieces' =>
      obtain ⟨hpiece, rest, htext, hrest⟩ := h.cons_inv
      obtain ⟨hpiece', rest', htext', hrest'⟩ := h'.cons_inv
      obtain ⟨rfl, rfl⟩ := hpiece.unique hpiece' (htext.trans htext'.symm)
      cases ih hrest pieces' hrest'
      rfl

/-! ## Replacing -/

theorem replaceFrom_of_free (h : ¬ token <:+: text) : replaceFrom token new 0 text = text := by
  induction text with
  | nil => rfl
  | cons c text ih =>
    rw [List.infix_cons_iff, not_or, ← List.isPrefixOf_iff_prefix] at h
    rw [replaceFrom, if_neg h.1, ih h.2]

/-- The scan takes the first piece as it is, puts the new text for the token, and goes on behind
it. -/
theorem replaceFrom_onlyBehind (htoken : token ≠ []) (h : OnlyBehind token piece) (rest : Text) :
    replaceFrom token new 0 (piece ++ token ++ rest)
      = piece ++ new ++ replaceFrom token new 0 rest := by
  induction piece with
  | nil =>
    obtain ⟨c, others, rfl⟩ := List.exists_cons_of_ne_nil htoken
    have hbegins : (c :: others).isPrefixOf (c :: (others ++ rest)) :=
      List.isPrefixOf_iff_prefix.mpr ⟨rest, rfl⟩
    rw [List.nil_append, List.cons_append, replaceFrom, if_pos hbegins, replaceFrom_eq_drop]
    simp
  | cons c piece ih =>
    obtain ⟨hpiece, hbegin⟩ := onlyBehind_cons_iff.mp h
    have hnot : ¬ token.isPrefixOf (c :: (piece ++ token ++ rest)) := by
      rw [List.isPrefixOf_iff_prefix]
      refine fun hfront => hbegin (List.prefix_of_prefix_length_le hfront ⟨rest, rfl⟩ ?_)
      simp only [List.length_cons, List.length_append]
      omega
    rw [List.cons_append, List.cons_append, replaceFrom, if_neg hnot, ih hpiece]
    rfl

/-- **Replacing keeps the pieces of the cut** and puts the new text between them. -/
theorem replaceAll_of_isAt (htoken : token ≠ []) (new : Text) (h : cut.IsAt token text) :
    replaceAll token new text = cut.filled new := by
  rw [replaceAll, if_neg (by simpa using htoken)]
  obtain ⟨pieces, last⟩ := cut
  induction pieces generalizing text with
  | nil =>
    obtain ⟨rfl, hfree⟩ := Cut.isAt_nil_iff.mp h
    rw [Cut.filled_nil, replaceFrom_of_free hfree]
  | cons piece pieces ih =>
    obtain ⟨hpiece, rest, rfl, hrest⟩ := h.cons_inv
    rw [replaceFrom_onlyBehind htoken hpiece, ih hrest, Cut.filled_cons]

theorem replaceAll_nil (new text : Text) :
    replaceAll [] new text = text.flatMap (new ++ [·]) ++ new :=
  rfl

end Text

/-! ## Filters for a literal token -/

namespace Replacement

variable {replacement : Option Text} {new : Text}

/-- A text that may be put into a template: there is something to put, and it is no word for a
missing value. -/
structure IsUsable (new : Text) : Prop where
  ne_nil : new ≠ []
  not_word : new ∉ missingWords

theorem isValidText_iff : isValidText new = true ↔ IsUsable new := by
  rw [isValidText, Bool.and_eq_true, Bool.not_eq_true', Bool.not_eq_true',
    List.isEmpty_eq_false_iff, List.contains_eq_mem, decide_eq_false_iff_not]
  exact ⟨fun h => ⟨h.1, h.2⟩, fun h => ⟨h.ne_nil, h.not_word⟩⟩

theorem accepted?_eq_some_iff :
    accepted? replacement = some new ↔ replacement = some new ∧ IsUsable new := by
  cases replacement with
  | none => simp [accepted?]
  | some t =>
    rw [accepted?, Option.ite_none_right_eq_some, isValidText_iff, and_comm, Option.some.injEq]
    exact and_congr_right fun h => h ▸ Iff.rfl

end Replacement

namespace Filter

open Replacement (IsUsable)

variable {f : Filter} {replacement : Option Text} {new : Text}

theorem substitute_usable (h : IsUsable new) (token template : Text) :
    (substitute token (some new) template).1 = Text.replaceAll token new template := by
  rw [substitute, Replacement.accepted?_eq_some_iff.mpr ⟨rfl, h⟩]

theorem substitute_unusable (h : ∀ new, replacement = some new → ¬ IsUsable new)
    (token template : Text) : (substitute token replacement template).1 = template := by
  have hnone : Replacement.accepted? replacement = none := by
    rw [Option.eq_none_iff_forall_ne_some]
    intro new haccepted
    obtain ⟨hnew, husable⟩ := Replacement.accepted?_eq_some_iff.mp haccepted
    exact h new hnew husable
  rw [substitute, hnone]

/-- The replacement that a filter with a replacer has for its token, which need not be usable: the
staged text, or else what the replacer answers, if it does not fail. -/
inductive Offers (f : Filter) : Option Text → Prop
  | staged {replacer : Replacer} (hreplacer : f.replacer = some replacer)
      (hstaged : f.staged ≠ []) : Offers f (some f.staged)
  | answered {replacer : Replacer} {value : Value} (hreplacer : f.replacer = some replacer)
      (hstaged : f.staged = []) (hanswer : replacer.answer f.calls none = .ok value) :
      Offers f (Replacement.ofValue value)

/-- Applying a filter for a literal token puts in what the filter offers. -/
theorem apply_of_offers (hkind : ∀ form, f.kind ≠ .keyed form) (h : f.Offers replacement)
    (template : Text) :
    (f.apply template).result = .ok (substitute f.token replacement template).1 := by
  cases h with
  | staged hreplacer hstaged =>
    rw [(apply_unkeyed hkind hreplacer template).1, fetchReplacement_staged hstaged]
    rfl
  | answered hreplacer hstaged hanswer =>
    rw [(apply_unkeyed hkind hreplacer template).1, fetchReplacement_called hstaged, hanswer]
    rfl

/-- **A literal token is replaced where the template is cut at it.** The cut is the only one of its
kind, and it is the same for every replacement. For an empty token the replacement stands before
every character and at the end. Without a replacer, or with a replacement that is not usable, the
template stays as it is. -/
theorem apply_at_cut (hkind : ∀ form, f.kind ≠ .keyed form) (template : Text) :
    (f.token ≠ [] → ∃ cut : Text.Cut, cut.IsAt f.token template ∧
      (∀ other : Text.Cut, other.IsAt f.token template → other = cut) ∧
      ∀ new, f.Offers (some new) → IsUsable new →
        (f.apply template).result = .ok (cut.filled new)) ∧
    (f.token = [] → ∀ new, f.Offers (some new) → IsUsable new →
      (f.apply template).result = .ok (template.flatMap (new ++ [·]) ++ new)) ∧
    (f.replacer = none → (f.apply template).result = .ok template) ∧
    ∀ replacement, f.Offers replacement → (∀ new, replacement = some new → ¬ IsUsable new) →
      (f.apply template).result = .ok template := by
  refine ⟨fun htoken => ?_, fun htoken new hoffers hnew => ?_, fun hnone => ?_,
    fun replacement hoffers hunusable => ?_⟩
  · obtain ⟨cut, hcut⟩ := Text.Cut.exists_isAt htoken template
    refine ⟨cut, hcut, fun other hother => hother.unique hcut, fun new hoffers hnew => ?_⟩
    rw [apply_of_offers hkind hoffers, substitute_usable hnew,
      Text.replaceAll_of_isAt htoken new hcut]
  · rw [apply_of_offers hkind hoffers, substitute_usable hnew, htoken, Text.replaceAll_nil]
  · rw [apply_idle hnone]
  · rw [apply_of_offers hkind hoffers, substitute_unusable hunusable]

/-- The token overlaps itself in the template, and the staged text holds the token. -/
theorem apply_at_cut_overlapping :
    let f : Filter :=
      { kind := .overridable "aa".toList "aaa".toList, replacer := some (.constant .null) }
    ∃ cut : Text.Cut, cut.IsAt f.token "baaabaa".toList ∧
      (f.apply "baaabaa".toList).result = .ok (cut.filled "aaa".toList) ∧
      cut.filled "aaa".toList = "baaaabaaa".toList := by
  intro f
  obtain ⟨hcuts, -⟩ := @apply_at_cut f (by intro form h; cases h) "baaabaa".toList
  obtain ⟨cut, hcut, -, hfilled⟩ := hcuts (by decide)
  have hresult := hfilled "aaa".toList (.staged rfl (by decide)) ⟨by decide, by decide⟩
  have happly : (f.apply "baaabaa".toList).result = .ok "baaaabaaa".toList := rfl
  exact ⟨cut, hcut, hresult, Except.ok.inj (hresult.symm.trans happly)⟩

end Filter

end Formulary
