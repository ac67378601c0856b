/-
Formulary.Proofs.FragmentScan — no placeholder is overlooked.

What `unresolved` lists is said here without any search: the fragments that stand anywhere in the
text, each of them once, and one before another when it stands farther to the left for the first
time. There is one list like that.

A search that goes on behind each match could miss what begins inside the match. It does not, for a
fragment has no brace inside and the next one needs an opening brace to begin with. So going on
behind a match and looking at every position come to the same, whatever braces are open, unbalanced
or nested around it.
-/
import Formulary.Proofs.Fragments

namespace Formulary.Placeholder

variable {c : Char} {t rest f g : Text} {found others : List Text}

/-! ## What is listed -/

/-- A pair of braces around a text without braces. -/
def IsFragment (f : Text) : Prop :=
  ∃ name, IsPlain name ∧ f = fragment name

/-- The first text stands somewhere, and up to there the second one does not stand anywhere. -/
def Precedes (t f g : Text) : Prop :=
  ∃ i, f <+: t.drop i ∧ ∀ j ≤ i, ¬g <+: t.drop j

/-- The fragments of a text in the order of their first occurrence. -/
structure Lists (t : Text) (found : List Text) : Prop where
  /-- What is listed are the fragments that stand anywhere in the text. -/
  mem_iff : ∀ f, f ∈ found ↔ IsFragment f ∧ f <:+: t
  /-- Each of them is listed once. -/
  nodup : found.Nodup
  /-- They come in the order of their first occurrence. -/
  ordered : found.Pairwise (Precedes t)

theorem not_precedes_of_precedes (h : Precedes t f g) : ¬Precedes t g f := by
  rintro ⟨j, hg, hf⟩
  obtain ⟨i, hf', hg'⟩ := h
  rcases Nat.le_total i j with hij | hji
  · exact hf i hij hf'
  · exact hg' j hji hg

/-- A text has one list of fragments. -/
theorem Lists.unique (h : Lists t found) (hothers : Lists t others) : found = others := by
  have hperm : found.Perm others :=
    (List.perm_ext_iff_of_nodup h.nodup hothers.nodup).mpr fun f => by
      rw [h.mem_iff, hothers.mem_iff]
  refine hperm.eq_of_pairwise ?_ h.ordered hothers.ordered
  intro f g _ _ hfg hgf
  exact absurd hgf (not_precedes_of_precedes hfg)

/-! ## Every position is looked at -/

/-- A text begins with one fragment at most, and that is found. -/
theorem fragmentAt?_eq_some : fragmentAt? t = some f ↔ IsFragment f ∧ f <+: t := by
  constructor
  · intro h
    refine ⟨?_, isPrefix_of_fragmentAt? h⟩
    cases t with
    | nil => cases h
    | cons c rest =>
      rw [fragmentAt?] at h
      split at h
      case isFalse => cases h
      case isTrue =>
        obtain ⟨name, hname, rfl⟩ := Option.map_eq_some_iff.mp h
        exact ⟨name, (nameBefore?_eq_some.mp hname).1, rfl⟩
  · rintro ⟨⟨name, hname, rfl⟩, behind, rfl⟩
    exact fragmentAt?_fragment hname behind

theorem occurrences_cons (c : Char) (rest : Text) :
    occurrences (c :: rest) = (fragmentAt? (c :: rest)).toList ++ occurrences rest := by
  rw [occurrences, fragmentAt?]
  split
  case isFalse => rfl
  case isTrue => cases nameBefore? rest <;> rfl

theorem mem_occurrences : f ∈ occurrences t ↔ IsFragment f ∧ f <:+: t := by
  constructor
  · intro h
    induction t with
    | nil => exact absurd h List.not_mem_nil
    | cons c rest ih =>
      rw [occurrences_cons, List.mem_append, Option.mem_toList] at h
      rcases h with hhere | hlater
      · obtain ⟨hf, hprefix⟩ := fragmentAt?_eq_some.mp hhere
        exact ⟨hf, hprefix.isInfix⟩
      · obtain ⟨hf, hinfix⟩ := ih hlater
        exact ⟨hf, hinfix.trans (List.suffix_cons c rest).isInfix⟩
  · rintro ⟨⟨name, hname, rfl⟩, before, behind, rfl⟩
    exact fragment_mem_occurrences hname before behind

/-- A character in front leaves the order of two texts alone if the second one does not begin with
it. -/
theorem Precedes.cons (h : Precedes rest f g) (hg : ¬g <+: c :: rest) :
    Precedes (c :: rest) f g := by
  obtain ⟨i, hf, hnone⟩ := h
  refine ⟨i + 1, hf, fun j hj => ?_⟩
  cases j with
  | zero => exact hg
  | succ j => exact hnone j (Nat.le_of_succ_le_succ hj)

/-- The fragments come in the order in which they are met first. -/
theorem pairwise_unresolved (t : Text) : (unresolved t).Pairwise (Precedes t) := by
  induction t with
  | nil => exact List.Pairwise.nil
  | cons c rest ih =>
    have hbegins : ∀ g ∈ unresolved rest, g <+: c :: rest → fragmentAt? (c :: rest) = some g := by
      intro g hg hprefix
      exact fragmentAt?_eq_some.mpr ⟨(mem_occurrences.mp (List.mem_eraseDups.mp hg)).1, hprefix⟩
    rw [unresolved, occurrences_cons]
    cases hat : fragmentAt? (c :: rest) with
    | none =>
      simp only [hat] at hbegins
      refine ih.imp_of_mem fun _ hg hprecedes => hprecedes.cons fun hprefix => ?_
      cases hbegins _ hg hprefix
    | some found =>
      simp only [hat, Option.some.injEq] at hbegins
      -- The fragment at the beginning comes first, and is struck from the ones behind it.
      have hothers : ∀ g ∈ (unresolved rest).filter (!· == found),
          g ∈ unresolved rest ∧ ¬g <+: c :: rest := by
        intro g hg
        simp only [List.mem_filter, Bool.not_eq_true', beq_eq_false_iff_ne] at hg
        exact ⟨hg.1, fun hprefix => hg.2 (hbegins g hg.1 hprefix).symm⟩
      rw [Option.toList_some, List.singleton_append, List.eraseDups_cons, eraseDups_filter]
      refine List.pairwise_cons.mpr ⟨fun g hg => ?_, ?_⟩
      · refine ⟨0, (fragmentAt?_eq_some.mp hat).2, fun j hj => ?_⟩
        obtain rfl := Nat.le_zero.mp hj
        exact (hothers g hg).2
      · refine (ih.sublist List.filter_sublist).imp_of_mem fun _ hg hprecedes => ?_
        exact hprecedes.cons (hothers _ hg).2

theorem nodup_unresolved (t : Text) : (unresolved t).Nodup := by
  refine (pairwise_unresolved t).imp ?_
  rintro f _ hprecedes rfl
  exact not_precedes_of_precedes hprecedes hprecedes

/-- Looking at every position finds exactly the fragments. -/
theorem lists_unresolved (t : Text) : Lists t (unresolved t) where
  mem_iff f := by rw [unresolved, List.mem_eraseDups, mem_occurrences]
  nodup := nodup_unresolved t
  ordered := pairwise_unresolved t

/-! ## Going on behind each match -/

/-- The matches from the left, none of which begins inside another one, after stepping over `skip`
characters of a match. -/
def matchesFrom : Nat → Text → List Text
  | _, [] => []
  | skip + 1, _ :: rest => matchesFrom skip rest
  | 0, c :: rest =>
    match fragmentAt? (c :: rest) with
    | none => matchesFrom 0 rest
    | some found => found :: matchesFrom (found.length - 1) rest

/-- The list with the text put at its end, unless it is there. -/
def noted (found : List Text) (f : Text) : List Text :=
  if f ∈ found then found else found ++ [f]

/-- Nothing begins inside a fragment. -/
theorem occurrences_drop (h : fragmentAt? (c :: rest) = some f) :
    occurrences (rest.drop (f.length - 1)) = occurrences rest := by
  obtain ⟨⟨name, hname, rfl⟩, behind, hbehind⟩ := fragmentAt?_eq_some.mp h
  have hrest : rest = name ++ ['\x7d'] ++ behind := (List.cons.inj hbehind).2.symm
  have hlength : (fragment name).length - 1 = (name ++ ['\x7d']).length := by
    rw [fragment, List.cons_append, List.length_cons, Nat.add_sub_cancel]
  have hinside : '\x7b' ∉ name ++ ['\x7d'] := by
    simpa using hname.not_mem_opening
  rw [hlength, hrest, List.drop_left, occurrences_append hinside]

theorem matchesFrom_eq (skip : Nat) (t : Text) :
    matchesFrom skip t = occurrences (t.drop skip) := by
  induction t generalizing skip with
  | nil => simp [matchesFrom, occurrences]
  | cons c rest ih =>
    cases skip with
    | succ skip => exact ih skip
    | zero =>
      rw [matchesFrom, List.drop_zero, occurrences_cons]
      cases hat : fragmentAt? (c :: rest) with
      | none => exact ih 0
      | some found =>
        simp only [ih, occurrences_drop hat]
        rfl

/-- Noting what is new leaves each text at its first place. -/
theorem foldl_noted (l : List Text) : l.foldl noted [] = l.eraseDups := by
  suffices hfrom : ∀ found, l.foldl noted found = found ++ (l.filter (· ∉ found)).eraseDups by
    have hall : l.filter (· ∉ []) = l := by simp
    rw [hfrom, hall, List.nil_append]
  induction l with
  | nil => simp
  | cons f rest ih =>
    intro found
    rw [List.foldl_cons, ih, noted]
    by_cases hf : f ∈ found
    · rw [if_pos hf, List.filter_cons_of_neg (by simpa using hf)]
    · rw [if_neg hf, List.filter_cons_of_pos (by simpa using hf), List.eraseDups_cons,
        List.filter_filter, List.append_assoc, List.singleton_append]
      congr 3
      refine List.filter_congr fun g _ => ?_
      by_cases hg : g = f <;> simp [hg]

/-- **The placeholders that are reported are all fragments of the text.** They are the fragments
that stand anywhere in it, without duplicates and in the order of their first occurrence, and this
says which list it is. A search from the left that goes on behind each match, and notes what it has
not found before, finds the same. -/
theorem unresolved_fragments (t : Text) :
    Lists t (unresolved t) ∧ (∀ found, Lists t found → found = unresolved t) ∧
      (matchesFrom 0 t).foldl noted [] = unresolved t := by
  refine ⟨lists_unresolved t, fun found hfound => hfound.unique (lists_unresolved t), ?_⟩
  rw [matchesFrom_eq, foldl_noted]
  rfl

end Formulary.Placeholder
