/-
Formulary.Proofs.Fragments — texts with fragments, and filling them in one pass.

Where no opening brace is followed by another one before a closing brace, a text has a simple shape:
single characters, whole fragments, and at the end perhaps an opening brace that nothing closes.
`Shaped` says so by constructors, and everything here is an induction over them.

`fill` is the meaning that repeated replacement is measured against: one pass from the left that
puts a text in the place of every fragment that has one and copies all else. Three laws connect it
with replacement. Replacing one literal fragment is such a pass (for every text); a pass behind a
pass is one pass that asks the first one first (`fill_fill`); and the fragments that are left are
those that had no replacement (`occurrences_fill`). The last two need the texts put in to be free of
braces, and the template to be unnested: in `{ {a}}` the replacement of the inner fragment makes a
new one.
-/
import Formulary.Placeholder

namespace Formulary.Placeholder

/-! ## Plain and unnested texts -/

/-- A fragment has only one name. -/
theorem fragment_injective : Function.Injective fragment := by
  intro name other h
  exact List.append_cancel_right (List.cons.inj h).2

/-- No brace stands in the text. -/
def IsPlain (t : Text) : Prop :=
  ∀ c ∈ t, isBrace c = false

/-- Behind an opening brace, no other one comes before a closing one. -/
def Unnested (t : Text) : Prop :=
  ∀ before inner behind,
    t = before ++ '\x7b' :: (inner ++ '\x7b' :: behind) → '\x7d' ∈ inner

instance (t : Text) : Decidable (IsPlain t) :=
  List.decidableBAll (fun c => isBrace c = false) t

theorem isPlain_cons {c : Char} {t : Text} :
    IsPlain (c :: t) ↔ isBrace c = false ∧ IsPlain t :=
  List.forall_mem_cons

theorem isBrace_eq_false {c : Char} : isBrace c = false ↔ c ≠ '\x7b' ∧ c ≠ '\x7d' := by
  simp [isBrace]

/-- Every end of an unnested text is unnested. -/
theorem Unnested.of_append {s t : Text} (h : Unnested (s ++ t)) : Unnested t := by
  rintro before inner behind rfl
  exact h (s ++ before) inner behind (by simp)

/-- The text up to the next brace, when that is a closing one, is plain and ends at it. -/
theorem nameBefore?_eq_some {t name : Text} :
    nameBefore? t = some name ↔ IsPlain name ∧ ∃ behind, t = name ++ '\x7d' :: behind := by
  constructor
  · intro h
    induction t generalizing name with
    | nil => cases h
    | cons c rest ih =>
      rw [nameBefore?] at h
      split at h
      case isTrue hc =>
        cases h
        exact ⟨nofun, rest, by rw [hc]; rfl⟩
      case isFalse hc =>
        split at h
        case isTrue => cases h
        case isFalse ho =>
          obtain ⟨inner, hinner, rfl⟩ := Option.map_eq_some_iff.mp h
          obtain ⟨hplain, behind, rfl⟩ := ih hinner
          exact ⟨isPlain_cons.mpr ⟨isBrace_eq_false.mpr ⟨ho, hc⟩, hplain⟩, behind, rfl⟩
  · rintro ⟨hplain, behind, rfl⟩
    induction name with
    | nil => rfl
    | cons c name ih =>
      obtain ⟨hc, hplain⟩ := isPlain_cons.mp hplain
      obtain ⟨ho, hc⟩ := isBrace_eq_false.mp hc
      rw [List.cons_append, nameBefore?, if_neg hc, if_neg ho, ih hplain]
      rfl

/-- Without a closing brace ahead, an unnested text has no brace at all behind an opening one. -/
theorem isPlain_of_nameBefore?_eq_none {t : Text} (hflat : Unnested ('\x7b' :: t))
    (h : nameBefore? t = none) : IsPlain t := by
  -- `inner` is what has been passed since the opening brace; no closing one was among it.
  suffices ∀ inner, '\x7d' ∉ inner → Unnested ('\x7b' :: (inner ++ t)) → IsPlain t from
    this [] List.not_mem_nil hflat
  clear hflat
  induction t with
  | nil => exact fun _ _ _ => nofun
  | cons c rest ih =>
    intro inner hinner hflat
    rw [nameBefore?] at h
    split at h
    case isTrue => cases h
    case isFalse hc =>
      have ho : c ≠ '\x7b' := by
        rintro rfl
        exact hinner (hflat [] inner rest rfl)
      rw [if_neg ho, Option.map_eq_none_iff] at h
      refine isPlain_cons.mpr ⟨isBrace_eq_false.mpr ⟨ho, hc⟩, ih h (inner ++ [c]) ?_ ?_⟩
      · simpa using ⟨hinner, Ne.symm hc⟩
      · simpa using hflat

/-- The shape of an unnested text: characters, fragments, and at the end perhaps an opening brace
with nothing but plain text behind it. -/
inductive Shaped : Text → Prop
  | nil : Shaped []
  | char {c : Char} {t : Text} : c ≠ '\x7b' → Shaped t → Shaped (c :: t)
  | fragment {name t : Text} : IsPlain name → Shaped t → Shaped (fragment name ++ t)
  | opening {t : Text} : IsPlain t → Shaped ('\x7b' :: t)

/-- Text without an opening brace may stand in front. -/
theorem Shaped.append {s t : Text} (hs : '\x7b' ∉ s) (ht : Shaped t) : Shaped (s ++ t) := by
  induction s with
  | nil => exact ht
  | cons c s ih =>
    rw [List.mem_cons, not_or] at hs
    exact .char (Ne.symm hs.1) (ih hs.2)

/-- Every unnested text has that shape. -/
theorem Unnested.shaped {t : Text} (hflat : Unnested t) : Shaped t := by
  -- A fragment is taken off in one step, so the induction is on the length.
  induction hn : t.length using Nat.strongRecOn generalizing t with
  | _ n ih =>
    cases t with
    | nil => exact .nil
    | cons c rest =>
      have hrest : Unnested rest := hflat.of_append (s := [c])
      rw [List.length_cons] at hn
      by_cases hc : c = '\x7b'
      · subst hc
        cases hname : nameBefore? rest with
        | none => exact .opening (isPlain_of_nameBefore?_eq_none hflat hname)
        | some name =>
          obtain ⟨hplain, behind, rfl⟩ := nameBefore?_eq_some.mp hname
          have hbehind : Unnested behind := by
            refine Unnested.of_append (s := name ++ ['\x7d']) ?_
            simpa using hrest
          rw [List.length_append, List.length_cons] at hn
          have := Shaped.fragment hplain (ih behind.length (by omega) hbehind rfl)
          simpa [Placeholder.fragment] using this
      · exact .char hc (ih rest.length (by omega) hrest rfl)

/-- Whether a text is unnested, by one scan; `inside` says that an opening brace waits for its
closing one. -/
def unnestedFrom (inside : Bool) : Text → Bool
  | [] => true
  | c :: rest =>
    if c = '\x7b' then !inside && unnestedFrom true rest
    else unnestedFrom (inside && c != '\x7d') rest

theorem unnestedFrom_plain_append {s : Text} (hs : IsPlain s) (inside : Bool) (t : Text) :
    unnestedFrom inside (s ++ t) = unnestedFrom inside t := by
  induction s with
  | nil => rfl
  | cons c s ih =>
    obtain ⟨hc, hs⟩ := isPlain_cons.mp hs
    obtain ⟨ho, hc⟩ := isBrace_eq_false.mp hc
    rw [List.cons_append, unnestedFrom, if_neg ho, bne_iff_ne.mpr hc, Bool.and_true, ih hs]

/-- Inside braces, the scan meets a closing brace before the next opening one. -/
theorem mem_of_unnestedFrom_true {inner behind : Text}
    (h : unnestedFrom true (inner ++ '\x7b' :: behind) = true) : '\x7d' ∈ inner := by
  induction inner with
  | nil => simp [unnestedFrom] at h
  | cons c inner ih =>
    rw [List.cons_append, unnestedFrom] at h
    split at h
    case isTrue => simp at h
    case isFalse =>
      by_cases hc : c = '\x7d'
      · exact hc ▸ List.mem_cons_self
      · rw [bne_iff_ne.mpr hc] at h
        exact List.mem_cons_of_mem c (ih h)

/-- The scan decides whether a text is unnested. -/
theorem unnestedFrom_false_iff {t : Text} : unnestedFrom false t = true ↔ Unnested t := by
  constructor
  · rintro h before inner behind rfl
    -- What stands in front of the first brace leaves the scan in some state.
    suffices ∀ inside,
        unnestedFrom inside (before ++ '\x7b' :: (inner ++ '\x7b' :: behind)) = true →
          '\x7d' ∈ inner from this false h
    clear h
    induction before with
    | nil =>
      intro inside h
      simp only [List.nil_append, unnestedFrom, if_true, Bool.and_eq_true] at h
      exact mem_of_unnestedFrom_true h.2
    | cons c before ih =>
      intro inside h
      rw [List.cons_append, unnestedFrom] at h
      split at h
      case isTrue => exact ih true (Bool.and_eq_true_iff.mp h).2
      case isFalse => exact ih _ h
  · intro hflat
    induction hflat.shaped with
    | nil => rfl
    | opening ht =>
      simpa [unnestedFrom] using unnestedFrom_plain_append ht true []
    | @char c t hc _ ih =>
      have ht : Unnested t := hflat.of_append (s := [c])
      simpa [unnestedFrom, hc] using ih ht
    | @fragment name t hname _ ih =>
      have hbehind := unnestedFrom_plain_append hname true ('\x7d' :: t)
      simp [fragment, unnestedFrom, hbehind, ih hflat.of_append]

instance (t : Text) : Decidable (Unnested t) :=
  decidable_of_iff _ unnestedFrom_false_iff

/-! ## Filling -/

/-- The fragment that the text begins with. -/
def fragmentAt? : Text → Option Text
  | [] => none
  | c :: rest => if c = '\x7b' then (nameBefore? rest).map fragment else none

/-- One pass that fills fragments, after stepping over `skip` characters of a fragment that has
been filled. -/
def fillFrom (new? : Text → Option Text) : Nat → Text → Text
  | _, [] => []
  | skip + 1, _ :: rest => fillFrom new? skip rest
  | 0, c :: rest =>
    match fragmentAt? (c :: rest) with
    | none => c :: fillFrom new? 0 rest
    | some found =>
      match new? found with
      | some new => new ++ fillFrom new? (found.length - 1) rest
      | none => c :: fillFrom new? 0 rest

/-- The text with every fragment that has a replacement replaced, in one pass from the left. Nothing
that has been put in is looked at again, and all other characters stay. -/
def fill (new? : Text → Option Text) (t : Text) : Text :=
  fillFrom new? 0 t

/-- The skip count of the pass is a later start. -/
theorem fillFrom_eq_drop (new? : Text → Option Text) (skip : Nat) (t : Text) :
    fillFrom new? skip t = fill new? (t.drop skip) := by
  induction t generalizing skip with
  | nil => simp [fillFrom, fill]
  | cons c rest ih =>
    cases skip with
    | zero => rfl
    | succ n => simpa only [fillFrom, List.drop_succ_cons] using ih n

theorem fragmentAt?_cons_of_ne {c : Char} {t : Text} (hc : c ≠ '\x7b') :
    fragmentAt? (c :: t) = none :=
  if_neg hc

theorem fragmentAt?_fragment {name : Text} (hname : IsPlain name) (t : Text) :
    fragmentAt? (fragment name ++ t) = some (fragment name) := by
  have h : nameBefore? (name ++ '\x7d' :: t) = some name :=
    nameBefore?_eq_some.mpr ⟨hname, t, rfl⟩
  simp [fragment, fragmentAt?, h]

/-- Plain text behind an opening brace begins no fragment. -/
theorem fragmentAt?_opening {t : Text} (ht : IsPlain t) : fragmentAt? ('\x7b' :: t) = none := by
  have h : nameBefore? t = none := by
    rw [Option.eq_none_iff_forall_ne_some]
    intro name h
    obtain ⟨-, behind, rfl⟩ := nameBefore?_eq_some.mp h
    have := ht '\x7d' (by simp)
    simp [isBrace] at this
  simp [fragmentAt?, h]

@[simp]
theorem fill_nil (new? : Text → Option Text) : fill new? [] = [] :=
  rfl

/-- Where no fragment with a replacement begins, the pass copies a character. -/
theorem fill_cons {c : Char} {t : Text} {new? : Text → Option Text}
    (h : (fragmentAt? (c :: t)).bind new? = none) : fill new? (c :: t) = c :: fill new? t := by
  rw [fill, fillFrom]
  cases hat : fragmentAt? (c :: t) with
  | none => rfl
  | some found =>
    rw [hat, Option.bind_some] at h
    simp only [h]
    rfl

/-- Where a fragment with a replacement begins, the pass puts that and goes on behind. -/
theorem fill_of_fragmentAt? {c : Char} {t found new : Text} {new? : Text → Option Text}
    (hat : fragmentAt? (c :: t) = some found) (hnew : new? found = some new) :
    fill new? (c :: t) = new ++ fill new? (t.drop (found.length - 1)) := by
  rw [fill, fillFrom, hat]
  simp only [hnew]
  rw [fillFrom_eq_drop]

theorem fill_char {c : Char} (hc : c ≠ '\x7b') (new? : Text → Option Text) (t : Text) :
    fill new? (c :: t) = c :: fill new? t :=
  fill_cons (by rw [fragmentAt?_cons_of_ne hc, Option.bind_none])

/-- Text without an opening brace is copied. -/
theorem fill_append {s : Text} (hs : '\x7b' ∉ s) (new? : Text → Option Text) (t : Text) :
    fill new? (s ++ t) = s ++ fill new? t := by
  induction s with
  | nil => rfl
  | cons c s ih =>
    rw [List.mem_cons, not_or] at hs
    rw [List.cons_append, fill_char (Ne.symm hs.1), ih hs.2, List.cons_append]

theorem IsPlain.not_mem_opening {t : Text} (ht : IsPlain t) : '\x7b' ∉ t := by
  intro h
  have := ht _ h
  simp [isBrace] at this

theorem IsPlain.not_mem_closing {t : Text} (ht : IsPlain t) : '\x7d' ∉ t := by
  intro h
  have := ht _ h
  simp [isBrace] at this

theorem fill_plain {t : Text} (ht : IsPlain t) (new? : Text → Option Text) : fill new? t = t := by
  simpa using fill_append ht.not_mem_opening new? []

theorem fill_opening {t : Text} (ht : IsPlain t) (new? : Text → Option Text) :
    fill new? ('\x7b' :: t) = '\x7b' :: t := by
  rw [fill_cons (by rw [fragmentAt?_opening ht, Option.bind_none]), fill_plain ht]

/-- A fragment with a replacement is replaced, and the pass goes on behind it. -/
theorem fill_fragment_of_some {name new : Text} (hname : IsPlain name) {new? : Text → Option Text}
    (hnew : new? (fragment name) = some new) (t : Text) :
    fill new? (fragment name ++ t) = new ++ fill new? t := by
  have h := fill_of_fragmentAt? (fragmentAt?_fragment hname t) hnew
  have hbehind : (name ++ ['\x7d'] ++ t).drop ((fragment name).length - 1) = t := by
    rw [fragment, List.cons_append, List.length_cons, Nat.add_sub_cancel]
    exact List.drop_left
  exact h.trans (congrArg (fun rest => new ++ fill new? rest) hbehind)

/-- A fragment without a replacement stays. -/
theorem fill_fragment_of_none {name : Text} (hname : IsPlain name) {new? : Text → Option Text}
    (hnew : new? (fragment name) = none) (t : Text) :
    fill new? (fragment name ++ t) = fragment name ++ fill new? t := by
  have hrest : fill new? (name ++ ['\x7d'] ++ t) = name ++ ['\x7d'] ++ fill new? t := by
    refine fill_append ?_ new? t
    rw [List.mem_append, not_or]
    exact ⟨hname.not_mem_opening, by simp⟩
  have h : fill new? (fragment name ++ t) = '\x7b' :: fill new? (name ++ ['\x7d'] ++ t) := by
    refine fill_cons (c := '\x7b') (t := name ++ ['\x7d'] ++ t) ?_
    exact (congrArg (·.bind new?) (fragmentAt?_fragment hname t)).trans hnew
  rw [h, hrest]
  rfl

/-- A pass without replacements changes nothing. -/
theorem fill_of_forall_none {new? : Text → Option Text} (h : ∀ found, new? found = none)
    (t : Text) : fill new? t = t := by
  induction t with
  | nil => rfl
  | cons c t ih => rw [fill_cons (Option.bind_eq_none_iff.mpr fun found _ => h found), ih]

/-! ## Replacing one fragment is a pass -/

/-- The replacement of a single fragment. -/
def only (found new : Text) : Text → Option Text :=
  fun other => if other = found then some new else none

/-- A fragment that a text begins with is a prefix of it. -/
theorem isPrefix_of_fragmentAt? {t found : Text} (h : fragmentAt? t = some found) :
    found <+: t := by
  cases t with
  | nil => cases h
  | cons c rest =>
    rw [fragmentAt?] at h
    split at h
    case isFalse => cases h
    case isTrue hc =>
      obtain ⟨name, hname, rfl⟩ := Option.map_eq_some_iff.mp h
      obtain ⟨-, behind, rfl⟩ := nameBefore?_eq_some.mp hname
      exact ⟨behind, by simp [fragment, hc]⟩

/-- The scan for a literal fragment and the pass that fills it take the same steps. -/
theorem replaceFrom_fragment {name : Text} (hname : IsPlain name) (new : Text) (skip : Nat)
    (t : Text) :
    Text.replaceFrom (fragment name) new skip t = fillFrom (only (fragment name) new) skip t := by
  induction t generalizing skip with
  | nil => cases skip <;> rfl
  | cons c rest ih =>
    cases skip with
    | succ n => exact ih n
    | zero =>
      rw [Text.replaceFrom]
      split
      case isTrue hprefix =>
        obtain ⟨behind, hbehind⟩ := List.isPrefixOf_iff_prefix.mp hprefix
        have hat : fragmentAt? (c :: rest) = some (fragment name) :=
          hbehind ▸ fragmentAt?_fragment hname behind
        rw [fillFrom, hat]
        simp only [only, if_true]
        rw [ih]
      case isFalse hprefix =>
        -- Any other fragment that begins here has no replacement.
        have hnone : (fragmentAt? (c :: rest)).bind (only (fragment name) new) = none := by
          rw [Option.bind_eq_none_iff]
          intro found hat
          refine if_neg fun heq => hprefix ?_
          exact List.isPrefixOf_iff_prefix.mpr (heq ▸ isPrefix_of_fragmentAt? hat)
        rw [ih]
        exact (fill_cons hnone).symm

/-- Replacing a literal fragment everywhere is the pass that fills this fragment only. -/
theorem replaceAll_fragment {name : Text} (hname : IsPlain name) (new t : Text) :
    Text.replaceAll (fragment name) new t = fill (only (fragment name) new) t := by
  rw [Text.replaceAll, if_neg (by simp [fragment])]
  exact replaceFrom_fragment hname new 0 t

/-! ## A pass behind a pass -/

/-- A pass over the outcome of another pass is one pass that asks the first one first, as long as
what the first one puts in is plain. -/
theorem fill_fill {first second : Text → Option Text} {t : Text} (shape : Shaped t)
    (hplain : ∀ found new, first found = some new → IsPlain new) :
    fill second (fill first t) = fill (fun found => (first found).or (second found)) t := by
  induction shape with
  | nil => rfl
  | char hc _ ih => rw [fill_char hc, fill_char hc, fill_char hc, ih]
  | opening ht => rw [fill_opening ht, fill_opening ht, fill_opening ht]
  | @fragment name t hname _ ih =>
    cases hfirst : first (fragment name) with
    | some new =>
      -- What the first pass puts in has no braces, so the second one copies it.
      have hboth : (first (fragment name)).or (second (fragment name)) = some new := by
        rw [hfirst, Option.some_or]
      rw [fill_fragment_of_some hname hfirst, fill_fragment_of_some hname hboth,
        fill_append (hplain _ new hfirst).not_mem_opening, ih]
    | none =>
      rw [fill_fragment_of_none hname hfirst]
      cases hsecond : second (fragment name) with
      | some new =>
        have hboth : (first (fragment name)).or (second (fragment name)) = some new := by
          rw [hfirst, Option.none_or, hsecond]
        rw [fill_fragment_of_some hname hsecond, fill_fragment_of_some hname hboth, ih]
      | none =>
        have hboth : (first (fragment name)).or (second (fragment name)) = none := by
          rw [hfirst, Option.none_or, hsecond]
        rw [fill_fragment_of_none hname hsecond, fill_fragment_of_none hname hboth, ih]

/-! ## The fragments that are left -/

theorem occurrences_char {c : Char} (hc : c ≠ '\x7b') (t : Text) :
    occurrences (c :: t) = occurrences t :=
  if_neg hc

theorem occurrences_append {s : Text} (hs : '\x7b' ∉ s) (t : Text) :
    occurrences (s ++ t) = occurrences t := by
  induction s with
  | nil => rfl
  | cons c s ih =>
    rw [List.mem_cons, not_or] at hs
    rw [List.cons_append, occurrences_char (Ne.symm hs.1), ih hs.2]

theorem occurrences_plain {t : Text} (ht : IsPlain t) : occurrences t = [] := by
  simpa [occurrences] using occurrences_append ht.not_mem_opening []

theorem occurrences_fragment {name : Text} (hname : IsPlain name) (t : Text) :
    occurrences (fragment name ++ t) = fragment name :: occurrences t := by
  have hnext : nameBefore? (name ++ '\x7d' :: t) = some name :=
    nameBefore?_eq_some.mpr ⟨hname, t, rfl⟩
  have hbehind : occurrences (name ++ '\x7d' :: t) = occurrences t := by
    rw [occurrences_append hname.not_mem_opening, occurrences_char (by decide)]
  simp [fragment, occurrences, hnext, hbehind]

theorem occurrences_opening {t : Text} (ht : IsPlain t) : occurrences ('\x7b' :: t) = [] := by
  have hat := fragmentAt?_opening ht
  rw [fragmentAt?, if_pos rfl, Option.map_eq_none_iff] at hat
  simp [occurrences, hat, occurrences_plain ht]

/-- A fragment is found wherever it stands. -/
theorem fragment_mem_occurrences {name : Text} (hname : IsPlain name) (before behind : Text) :
    fragment name ∈ occurrences (before ++ fragment name ++ behind) := by
  induction before with
  | nil =>
    rw [List.nil_append, occurrences_fragment hname]
    exact List.mem_cons_self
  | cons c before ih =>
    rw [List.cons_append, List.cons_append, occurrences]
    split
    case isTrue =>
      split
      case h_1 => exact List.mem_cons_of_mem _ ih
      case h_2 => exact ih
    case isFalse => exact ih

/-- After a pass with plain texts, the fragments that are left are those without a replacement. -/
theorem occurrences_fill {new? : Text → Option Text} {t : Text} (shape : Shaped t)
    (hplain : ∀ found new, new? found = some new → IsPlain new) :
    occurrences (fill new? t) = (occurrences t).filter fun found => (new? found).isNone := by
  induction shape with
  | nil => rfl
  | char hc _ ih => rw [fill_char hc, occurrences_char hc, occurrences_char hc, ih]
  | opening ht => rw [fill_opening ht, occurrences_opening ht, List.filter_nil]
  | @fragment name t hname _ ih =>
    rw [occurrences_fragment hname]
    cases hnew : new? (fragment name) with
    | some new =>
      rw [fill_fragment_of_some hname hnew, occurrences_append (hplain _ new hnew).not_mem_opening,
        List.filter_cons_of_neg (by simp [hnew]), ih]
    | none =>
      rw [fill_fragment_of_none hname hnew, occurrences_fragment hname,
        List.filter_cons_of_pos (by simp [hnew]), ih]

/-- Sorting members out does not change which duplicates go. -/
theorem eraseDups_filter {α : Type} [BEq α] [LawfulBEq α] (p : α → Bool) (l : List α) :
    (l.filter p).eraseDups = l.eraseDups.filter p := by
  induction hn : l.length using Nat.strongRecOn generalizing l with
  | _ n ih =>
    cases l with
    | nil => rfl
    | cons a l =>
      have hlt : (l.filter fun b => !b == a).length < n := by
        have := List.length_filter_le (fun b => !b == a) l
        simp only [List.length_cons] at hn
        omega
      have step := ih _ hlt _ rfl
      rw [List.eraseDups_cons]
      by_cases ha : p a = true
      · rw [List.filter_cons_of_pos ha, List.eraseDups_cons, List.filter_cons_of_pos ha, ← step,
          List.filter_filter, List.filter_filter]
        simp only [Bool.and_comm]
      · rw [List.filter_cons_of_neg ha, List.filter_cons_of_neg ha, ← step, List.filter_filter]
        -- A member that is sorted out anyway may be taken out of the list beforehand.
        congr 1
        refine List.filter_congr fun b _ => ?_
        by_cases hb : p b = true
        · have : b ≠ a := fun h => ha (h ▸ hb)
          simp [hb, this]
        · simp [hb]

/-- After a pass with plain texts, the placeholders that are reported are the template's own ones
without those that had a replacement. -/
theorem unresolved_fill {new? : Text → Option Text} {t : Text} (shape : Shaped t)
    (hplain : ∀ found new, new? found = some new → IsPlain new) :
    unresolved (fill new? t) = (unresolved t).filter fun found => (new? found).isNone := by
  rw [unresolved, occurrences_fill shape hplain, eraseDups_filter, unresolved]

end Formulary.Placeholder
