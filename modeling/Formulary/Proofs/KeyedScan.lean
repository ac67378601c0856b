/-
Formulary.Proofs.KeyedScan — keyed substitution is a leftmost, shortest, single pass.

A keyed filter cuts the template into pieces by a recursion that counts the characters still to be
skipped, and then goes through the pieces. Here the rule is stated without either of them. A
placeholder stands where opening text, key and closing text stand and the key is on one line; of
those that begin at one place the one with the shortest key counts, and of all places the leftmost
one; behind it the pass goes on, and what was put in is not looked at again. `Scanned` is that rule
together with the calls of the replacer, and applying the filter has the outcome of `Scanned` and no
other.

A placeholder has some text. That matters only for the form without any text of its own, whose
placeholders are its keys: there every character except a line end is one. For all other forms the
shortest key may be empty, and such a placeholder is copied without asking the replacer.
-/
import Formulary.Proofs.Applying
import Mathlib.Data.Nat.Find

namespace Formulary

namespace KeyedForm

variable {form : KeyedForm} {text key other before rest : Text}

/-! ## Placeholders in a text -/

/-- A placeholder with this key stands at the beginning of the text: the key is on one line, and the
placeholder is not empty. -/
structure StandsAt (form : KeyedForm) (text key : Text) : Prop where
  stands : form.placeholder key <+: text
  line : '\n' ∉ key
  nonempty : form.placeholder key ≠ []

/-- The placeholder that the text begins with is the one with the shortest key. -/
structure Begins (form : KeyedForm) (text key : Text) : Prop extends StandsAt form text key where
  shortest : ∀ other, form.StandsAt text other → key.length ≤ other.length

/-- No placeholder stands anywhere in the text. -/
def IsPlain (form : KeyedForm) (text : Text) : Prop :=
  ∀ i other, ¬ form.StandsAt (text.drop i) other

/-- The first placeholder of a text: `before` is in front of it, and `rest` behind it. -/
structure First (form : KeyedForm) (text before key rest : Text) : Prop where
  text_eq : text = before ++ (form.placeholder key ++ rest)
  begins : form.Begins (form.placeholder key ++ rest) key
  leftmost : ∀ i < before.length, ∀ other, ¬ form.StandsAt (text.drop i) other

/-- The placeholder at the beginning of a text is determined. -/
theorem Begins.unique (h : form.Begins text key) (hother : form.Begins text other) :
    key = other := by
  have hlength : key.length = other.length :=
    Nat.le_antisymm (h.shortest other hother.toStandsAt) (hother.shortest key h.toStandsAt)
  obtain ⟨behind, rfl⟩ := h.stands
  obtain ⟨others, hothers⟩ := hother.stands
  simp only [placeholder, List.append_assoc] at hothers
  exact (List.append_inj_left (List.append_cancel_left hothers) hlength.symm).symm

theorem not_standsAt_nil : ¬ form.StandsAt [] key :=
  fun h => h.nonempty (List.prefix_nil.mp h.stands)

/-- A plain text stays plain when its first character is taken off. -/
theorem IsPlain.tail {c : Char} (h : form.IsPlain (c :: rest)) : form.IsPlain rest :=
  fun i => h (i + 1)

/-- A text is plain or has a first placeholder. -/
theorem isPlain_or_first (form : KeyedForm) (text : Text) :
    form.IsPlain text ∨ ∃ before key rest, form.First text before key rest := by
  induction text with
  | nil =>
    refine .inl fun i other h => ?_
    rw [List.drop_nil] at h
    exact not_standsAt_nil h
  | cons c text ih =>
    by_cases hhere : ∃ key, form.StandsAt (c :: text) key
    · -- The least length of a key gives the placeholder that the text begins with.
      classical
      have hlength : ∃ n key, form.StandsAt (c :: text) key ∧ key.length = n :=
        let ⟨key, hkey⟩ := hhere
        ⟨key.length, key, hkey, rfl⟩
      obtain ⟨key, hstands, hleast⟩ := Nat.find_spec hlength
      obtain ⟨rest, hrest⟩ := hstands.stands
      refine .inr ⟨[], key, rest, hrest.symm, ⟨hrest ▸ hstands, fun other hother => ?_⟩, nofun⟩
      rw [hleast]
      exact Nat.find_min' hlength ⟨other, hrest ▸ hother, rfl⟩
    · rw [not_exists] at hhere
      rcases ih with hplain | ⟨before, key, rest, hfirst⟩
      · refine .inl fun i => ?_
        cases i with
        | zero => exact hhere
        | succ i => exact hplain i
      · refine .inr ⟨c :: before, key, rest, ?_, hfirst.begins, fun i hi => ?_⟩
        · rw [hfirst.text_eq]
          rfl
        · cases i with
          | zero => exact hhere
          | succ i => exact hfirst.leftmost i (Nat.lt_of_succ_lt_succ hi)

/-! ## The pieces of a text -/

/-- The key before the first closing text, as a search: it finds the shortest one on the line. -/
theorem keyBefore?_eq_some {closing : Text} (h : keyBefore? closing text = some key) :
    (key ++ closing <+: text ∧ '\n' ∉ key) ∧
      ∀ other, other ++ closing <+: text → '\n' ∉ other → key.length ≤ other.length := by
  induction text generalizing key with
  | nil =>
    rw [keyBefore?] at h
    split at h
    case isTrue hempty =>
      cases h
      rw [List.isEmpty_iff.mp hempty]
      exact ⟨⟨List.prefix_rfl, List.not_mem_nil⟩, fun _ _ _ => Nat.zero_le _⟩
    case isFalse => cases h
  | cons c rest ih =>
    rw [keyBefore?] at h
    split at h
    case isTrue hclosing =>
      cases h
      exact ⟨⟨List.isPrefixOf_iff_prefix.mp hclosing, List.not_mem_nil⟩, fun _ _ _ => Nat.zero_le _⟩
    case isFalse hclosing =>
      split at h
      case isTrue => cases h
      case isFalse hc =>
        obtain ⟨key, hkey, rfl⟩ := Option.map_eq_some_iff.mp h
        obtain ⟨⟨hstart, hline⟩, hshortest⟩ := ih hkey
        refine ⟨⟨?_, ?_⟩, fun other hother hotherLine => ?_⟩
        · exact List.cons_prefix_cons.mpr ⟨rfl, hstart⟩
        · rw [List.mem_cons, not_or]
          exact ⟨Ne.symm hc, hline⟩
        · cases other with
          | nil => exact absurd (List.isPrefixOf_iff_prefix.mpr hother) hclosing
          | cons d other =>
            obtain ⟨-, hother⟩ := List.cons_prefix_cons.mp hother
            rw [List.mem_cons, not_or] at hotherLine
            exact Nat.succ_le_succ (hshortest other hother hotherLine.2)

/-- Where the search finds nothing, no closing text follows on the line. -/
theorem keyBefore?_eq_none {closing : Text} (h : keyBefore? closing text = none) :
    ∀ other, other ++ closing <+: text → '\n' ∈ other := by
  induction text with
  | nil =>
    rw [keyBefore?] at h
    split at h
    case isTrue => cases h
    case isFalse hempty =>
      intro other hother
      refine absurd (List.isEmpty_iff.mpr ?_) hempty
      exact (List.append_eq_nil_iff.mp (List.prefix_nil.mp hother)).2
  | cons c rest ih =>
    rw [keyBefore?] at h
    split at h
    case isTrue => cases h
    case isFalse hclosing =>
      intro other hother
      cases other with
      | nil => exact absurd (List.isPrefixOf_iff_prefix.mpr hother) hclosing
      | cons d other =>
        obtain ⟨rfl, htail⟩ := List.cons_prefix_cons.mp hother
        split at h
        case isTrue hd => exact hd ▸ List.mem_cons_self
        case isFalse => exact List.mem_cons_of_mem d (ih (Option.map_eq_none_iff.mp h) other htail)

/-- A placeholder begins with the opening text, and its key and the closing text follow. -/
theorem placeholder_prefix_iff :
    form.placeholder key <+: text ↔
      form.opening <+: text ∧ key ++ form.right <+: text.drop form.opening.length := by
  rw [placeholder, List.append_assoc]
  constructor
  · rintro ⟨behind, rfl⟩
    rw [List.append_assoc, List.drop_left]
    exact ⟨List.prefix_append .., List.prefix_append ..⟩
  · rintro ⟨⟨behind, rfl⟩, hkey⟩
    rw [List.drop_left] at hkey
    exact (List.prefix_append_right_inj _).mpr hkey

theorem key?_eq_some (h : form.key? text = some key) :
    (form.placeholder key <+: text ∧ '\n' ∉ key) ∧
      ∀ other, form.placeholder other <+: text → '\n' ∉ other → key.length ≤ other.length := by
  rw [key?] at h
  split at h
  case isTrue hopening =>
    obtain ⟨⟨hstart, hline⟩, hshortest⟩ := keyBefore?_eq_some h
    refine ⟨⟨placeholder_prefix_iff.mpr ⟨List.isPrefixOf_iff_prefix.mp hopening, hstart⟩, hline⟩,
      fun other hother => hshortest other (placeholder_prefix_iff.mp hother).2⟩
  case isFalse => cases h

theorem not_standsAt_of_key? (h : form.key? text = none) : ¬ form.StandsAt text key := by
  rintro ⟨hstart, hline, -⟩
  obtain ⟨hopening, hkey⟩ := placeholder_prefix_iff.mp hstart
  rw [key?, if_pos (List.isPrefixOf_iff_prefix.mpr hopening)] at h
  exact hline (keyBefore?_eq_none h key hkey)

/-- The skip count of the pass is a later start. -/
theorem piecesFrom_eq_drop (form : KeyedForm) (skip : Nat) (text : Text) :
    form.piecesFrom skip text = form.pieces (text.drop skip) := by
  induction text generalizing skip with
  | nil => rw [List.drop_nil, pieces, piecesFrom, piecesFrom]
  | cons c rest ih =>
    cases skip with
    | zero => rfl
    | succ n => rw [piecesFrom, List.drop_succ_cons, ih n]

/-- For a form without any text of its own, a placeholder is a key, and the shortest key with some
text is one character. -/
theorem begins_bare {c : Char} (hbare : form.opening = [] ∧ form.right = []) (hc : c ≠ '\n') :
    form.Begins (c :: rest) [c] := by
  have hplaceholder : ∀ other, form.placeholder other = other := by
    intro other
    rw [placeholder, hbare.1, hbare.2, List.nil_append, List.append_nil]
  refine ⟨⟨?_, ?_, ?_⟩, fun other hother => ?_⟩
  · rw [hplaceholder]
    exact List.prefix_append [c] rest
  · rw [List.mem_singleton]
    exact Ne.symm hc
  · rw [hplaceholder]
    exact List.cons_ne_nil c []
  · have hnonempty := hother.nonempty
    rw [hplaceholder] at hnonempty
    exact List.length_pos_iff.mpr hnonempty

/-- The first piece of a text that begins with no placeholder is its first character. -/
theorem pieces_plain {c : Char} (h : ∀ other, ¬ form.StandsAt (c :: rest) other) :
    form.pieces (c :: rest) = .plain c :: form.pieces rest := by
  rw [pieces, piecesFrom]
  split
  case h_2 => rfl
  case h_1 key hkey =>
    obtain ⟨⟨hstart, hline⟩, -⟩ := key?_eq_some hkey
    -- A placeholder that is found and does not stand there has no text, so the form has none.
    have hempty : form.placeholder key = [] :=
      Classical.byContradiction fun hnonempty => h key ⟨hstart, hline, hnonempty⟩
    have hbare : form.opening = [] ∧ form.right = [] := by
      simp only [placeholder, List.append_eq_nil_iff] at hempty
      exact ⟨hempty.1.1, hempty.2⟩
    have hc : c = '\n' :=
      Classical.byContradiction fun hc => h [c] (begins_bare hbare hc).toStandsAt
    simp only [hempty, List.length_nil, if_true, bareKey, if_pos hc]
    rfl

/-- The first piece of a text that begins with a placeholder is that placeholder. -/
theorem pieces_placeholder (h : form.Begins (form.placeholder key ++ rest) key) :
    form.pieces (form.placeholder key ++ rest) = .keyed key :: form.pieces rest := by
  obtain ⟨c, tail, htext⟩ := List.exists_cons_of_ne_nil
    (List.append_ne_nil_of_left_ne_nil h.nonempty rest)
  rw [htext] at h ⊢
  rw [pieces, piecesFrom]
  split
  case h_2 hnone => exact absurd h.toStandsAt (not_standsAt_of_key? hnone)
  case h_1 found hfound =>
    obtain ⟨⟨hstart, hline⟩, hshortest⟩ := key?_eq_some hfound
    simp only
    split
    case isTrue hlength =>
      -- The form has no text, and its shortest key with some text is the first character.
      have hempty : form.placeholder found = [] := List.length_eq_zero_iff.mp hlength
      simp only [placeholder, List.append_eq_nil_iff] at hempty
      have hbare : form.opening = [] ∧ form.right = [] := ⟨hempty.1.1, hempty.2⟩
      have hplaceholder : form.placeholder key = key := by
        rw [placeholder, hbare.1, hbare.2, List.nil_append, List.append_nil]
      have hc : c ≠ '\n' := by
        rintro rfl
        have hkey : key ≠ [] := hplaceholder ▸ h.nonempty
        obtain ⟨d, key, rfl⟩ := List.exists_cons_of_ne_nil hkey
        rw [hplaceholder, List.cons_append] at htext
        exact h.line ((List.cons.inj htext).1 ▸ List.mem_cons_self)
      obtain rfl := h.unique (begins_bare hbare hc)
      rw [hplaceholder] at htext
      obtain ⟨-, rfl⟩ := List.cons.inj htext
      rw [bareKey, if_neg hc]
      rfl
    case isFalse hlength =>
      have hfoundBegins : form.Begins (c :: tail) found :=
        ⟨⟨hstart, hline, fun hempty => hlength (congrArg List.length hempty)⟩,
          fun other hother => hshortest other hother.stands hother.line⟩
      obtain rfl := h.unique hfoundBegins
      have htail : tail = (c :: tail).drop 1 := rfl
      rw [piecesFrom_eq_drop, htail, List.drop_drop, ← htext,
        Nat.add_sub_cancel' (Nat.pos_of_ne_zero hlength), List.drop_left]

/-- The pieces of a plain text are its characters. -/
theorem pieces_of_isPlain (h : form.IsPlain text) : form.pieces text = text.map .plain := by
  induction text with
  | nil => rfl
  | cons c rest ih => rw [pieces_plain (h 0), ih h.tail, List.map_cons]

/-- In front of the first placeholder the pieces are characters; behind it, they are those of the
rest. -/
theorem First.pieces_eq (h : form.First text before key rest) :
    form.pieces text = before.map .plain ++ .keyed key :: form.pieces rest := by
  obtain ⟨rfl, hbegins, hleftmost⟩ := h
  induction before with
  | nil => exact pieces_placeholder hbegins
  | cons c before ih =>
    have hfirst : form.pieces (c :: (before ++ (form.placeholder key ++ rest)))
        = .plain c :: form.pieces (before ++ (form.placeholder key ++ rest)) :=
      pieces_plain (hleftmost 0 (Nat.zero_lt_succ _))
    rw [List.cons_append, hfirst, ih fun i hi => hleftmost (i + 1) (Nat.succ_lt_succ hi)]
    rfl

/-- What is behind the first placeholder is shorter. -/
theorem First.length_lt (h : form.First text before key rest) : rest.length < text.length := by
  have hpos := List.length_pos_iff.mpr h.begins.nonempty
  rw [h.text_eq, List.length_append, List.length_append]
  omega

/-! ## The pass -/

/-- The keys of the placeholders of a text, from the left. -/
inductive HasKeys (form : KeyedForm) : Text → List Text → Prop
  | plain {text : Text} (hplain : form.IsPlain text) : HasKeys form text []
  | placeholder {text before key rest : Text} {keys : List Text}
      (hfirst : form.First text before key rest) (hkeys : HasKeys form rest keys) :
      HasKeys form text (key :: keys)

/-- What stands for an answered placeholder afterwards: the answer as text, or, where that may not
be put in, the placeholder. -/
def emitted (form : KeyedForm) (key : Text) (value : Value) : Text :=
  (Replacement.accepted? (Replacement.ofValue value)).getD (form.placeholder key)

/-- The pass over a text: with these calls on record it has this result and leaves these calls on
record. What is in front of the first placeholder is copied; a placeholder with an empty key is
copied; for another key the replacer is called once; the pass goes on behind the placeholder. -/
inductive Scanned (form : KeyedForm) (replacer : Replacer) :
    List Call → Text → Except Failure Text → List Call → Prop
  | plain {calls : List Call} {text : Text} (hplain : form.IsPlain text) :
      Scanned form replacer calls text (.ok text) calls
  | unkeyed {calls record : List Call} {text before rest : Text} {result : Except Failure Text}
      (hfirst : form.First text before [] rest)
      (hmore : Scanned form replacer calls rest result record) :
      Scanned form replacer calls text (result.map (before ++ form.placeholder [] ++ ·)) record
  | failed {calls : List Call} {text before key rest : Text} {failure : Failure}
      (hfirst : form.First text before key rest) (hkey : key ≠ [])
      (hanswer : replacer.answer calls (some key) = .error failure) :
      Scanned form replacer calls text (.error failure) (calls ++ [some key])
  | answered {calls record : List Call} {text before key rest : Text} {value : Value}
      {result : Except Failure Text} (hfirst : form.First text before key rest) (hkey : key ≠ [])
      (hanswer : replacer.answer calls (some key) = .ok value)
      (hmore : Scanned form replacer (calls ++ [some key]) rest result record) :
      Scanned form replacer calls text (result.map (before ++ form.emitted key value ++ ·)) record

variable {replacer : Replacer} {calls record : List Call} {result : Except Failure Text}

theorem exists_hasKeys (form : KeyedForm) (text : Text) : ∃ keys, form.HasKeys text keys := by
  rcases form.isPlain_or_first text with hplain | ⟨before, key, rest, hfirst⟩
  · exact ⟨[], .plain hplain⟩
  · have := hfirst.length_lt
    obtain ⟨keys, hkeys⟩ := exists_hasKeys form rest
    exact ⟨key :: keys, .placeholder hfirst hkeys⟩
termination_by text.length

/-- The pass comes to an end on every text. -/
theorem exists_scanned (form : KeyedForm) (replacer : Replacer) (calls : List Call) (text : Text) :
    ∃ result record, form.Scanned replacer calls text result record := by
  rcases form.isPlain_or_first text with hplain | ⟨before, key, rest, hfirst⟩
  · exact ⟨_, _, .plain hplain⟩
  · have := hfirst.length_lt
    by_cases hkey : key = []
    · subst hkey
      obtain ⟨result, record, hmore⟩ := exists_scanned form replacer calls rest
      exact ⟨_, _, .unkeyed hfirst hmore⟩
    · cases hanswer : replacer.answer calls (some key) with
      | error failure => exact ⟨_, _, .failed hfirst hkey hanswer⟩
      | ok value =>
        obtain ⟨result, record, hmore⟩ := exists_scanned form replacer (calls ++ [some key]) rest
        exact ⟨_, _, .answered hfirst hkey hanswer hmore⟩
termination_by text.length

theorem map_append_append (result : Except Failure Text) (front middle : Text) :
    (result.map (middle ++ ·)).map (front ++ ·) = result.map (front ++ middle ++ ·) := by
  cases result with
  | error failure => rfl
  | ok text => exact congrArg Except.ok (List.append_assoc front middle text).symm

/-- Characters that belong to no placeholder are copied, and no call is made for them. -/
theorem resolvePieces_plain_append (form : KeyedForm) (replacer : Replacer) (calls : List Call)
    (before : Text) (more : List Piece) :
    (Filter.resolvePieces form replacer calls (before.map .plain ++ more)).result
        = (Filter.resolvePieces form replacer calls more).result.map (before ++ ·) ∧
      (Filter.resolvePieces form replacer calls (before.map .plain ++ more)).calls
        = (Filter.resolvePieces form replacer calls more).calls := by
  induction before with
  | nil =>
    refine ⟨?_, rfl⟩
    rw [List.map_nil, List.nil_append]
    cases (Filter.resolvePieces form replacer calls more).result <;> rfl
  | cons c before ih =>
    obtain ⟨hresult, hcalls⟩ := ih
    rw [List.map_cons, List.cons_append, Filter.resolvePieces]
    refine ⟨?_, hcalls⟩
    simp only [hresult]
    cases (Filter.resolvePieces form replacer calls more).result <;> rfl

/-- Going through the pieces of a text is the pass over the text. -/
theorem Scanned.resolvePieces_eq (h : form.Scanned replacer calls text result record) :
    (Filter.resolvePieces form replacer calls (form.pieces text)).result = result ∧
      (Filter.resolvePieces form replacer calls (form.pieces text)).calls = record := by
  induction h with
  | @plain calls text hplain =>
    obtain ⟨hresult, hcalls⟩ := resolvePieces_plain_append form replacer calls text []
    rw [List.append_nil] at hresult hcalls
    rw [pieces_of_isPlain hplain, hresult, hcalls]
    refine ⟨?_, rfl⟩
    rw [Filter.resolvePieces]
    exact congrArg Except.ok (List.append_nil text)
  | @unkeyed calls record text before rest result hfirst _ ih =>
    obtain ⟨hresult, hcalls⟩ := ih
    obtain ⟨hfront, hfrontCalls⟩ := resolvePieces_plain_append form replacer calls before
      (.keyed [] :: form.pieces rest)
    rw [hfirst.pieces_eq, hfront, hfrontCalls, Filter.resolvePieces, ← map_append_append]
    simp only [hresult, hcalls, and_self]
  | @failed calls text before key rest failure hfirst hkey hanswer =>
    obtain ⟨hfront, hfrontCalls⟩ := resolvePieces_plain_append form replacer calls before
      (.keyed key :: form.pieces rest)
    rw [hfirst.pieces_eq, hfront, hfrontCalls, Filter.resolvePieces_keyed_of_error hkey hanswer,
      Filter.resolvePieces_keyed_calls_of_error hkey hanswer]
    exact ⟨rfl, rfl⟩
  | @answered calls record text before key rest value result hfirst hkey hanswer _ ih =>
    obtain ⟨hresult, hcalls⟩ := ih
    obtain ⟨hfront, hfrontCalls⟩ := resolvePieces_plain_append form replacer calls before
      (.keyed key :: form.pieces rest)
    rw [hfirst.pieces_eq, hfront, hfrontCalls, Filter.resolvePieces_keyed_of_ok hkey hanswer,
      Filter.resolvePieces_keyed_calls_of_ok hkey hanswer, hresult, hcalls]
    exact ⟨map_append_append result before (form.emitted key value), rfl⟩

/-- Without a closing text, but with something in front of the key, the shortest key is empty. -/
theorem First.key_eq_nil (h : form.First text before key rest) (hright : form.right = [])
    (hopening : form.opening ≠ []) : key = [] := by
  have hplaceholder : form.placeholder [] = form.opening := by
    rw [placeholder, hright, List.append_nil, List.append_nil]
  have hempty : form.StandsAt (form.placeholder key ++ rest) [] := by
    refine ⟨?_, List.not_mem_nil, hplaceholder ▸ hopening⟩
    rw [hplaceholder, placeholder, List.append_assoc, List.append_assoc]
    exact List.prefix_append ..
  exact List.eq_nil_of_length_eq_zero (Nat.le_zero.mp (h.begins.shortest [] hempty))

/-- A form without a closing text, but with something in front of the key, asks for nothing. -/
theorem Scanned.eq_of_right_nil (h : form.Scanned replacer calls text result record)
    (hright : form.right = []) (hopening : form.opening ≠ []) :
    result = .ok text ∧ record = calls := by
  induction h with
  | plain => exact ⟨rfl, rfl⟩
  | @unkeyed calls record text before rest result hfirst _ ih =>
    obtain ⟨rfl, rfl⟩ := ih
    refine ⟨?_, rfl⟩
    rw [hfirst.text_eq, ← List.append_assoc]
    rfl
  | failed hfirst hkey => exact absurd (hfirst.key_eq_nil hright hopening) hkey
  | answered hfirst hkey => exact absurd (hfirst.key_eq_nil hright hopening) hkey

/-! ## The calls of a pass -/

/-- Calls for these keys, one after another, are answered with these values. -/
inductive Answers (replacer : Replacer) : List Call → List (Text × Value) → Prop
  | nil {calls : List Call} : Answers replacer calls []
  | cons {calls : List Call} {key : Text} {value : Value} {more : List (Text × Value)}
      (hanswer : replacer.answer calls (some key) = .ok value)
      (hmore : Answers replacer (calls ++ [some key]) more) :
      Answers replacer calls ((key, value) :: more)

/-- The record of calls behind these answers. -/
def recordOf (calls : List Call) (answers : List (Text × Value)) : List Call :=
  calls ++ answers.map fun answer => some answer.1

/-- What a pass over a text with these keys may come to. Either all keys that are not empty are
answered, in order and once each, and the text is the old one if no answer may be put in; or they
are answered up to one whose call fails, and nothing is asked behind it. -/
inductive Accounted (form : KeyedForm) (replacer : Replacer) (calls : List Call) (text : Text)
    (keys : List Text) : Except Failure Text → List Call → Prop
  | completed {output : Text} {answers : List (Text × Value)}
      (hanswers : Answers replacer calls answers)
      (hkeys : answers.map Prod.fst = keys.filter (· ≠ []))
      (hunchanged : (∀ answer ∈ answers,
        Replacement.accepted? (Replacement.ofValue answer.2) = none) → output = text) :
      Accounted form replacer calls text keys (.ok output) (recordOf calls answers)
  | stopped {failure : Failure} {answers : List (Text × Value)} {key : Text}
      (hanswers : Answers replacer calls answers)
      (hkeys : answers.map Prod.fst ++ [key] <+: keys.filter (· ≠ []))
      (hanswer : replacer.answer (recordOf calls answers) (some key) = .error failure) :
      Accounted form replacer calls text keys (.error failure)
        (recordOf calls answers ++ [some key])

theorem recordOf_nil (calls : List Call) : recordOf calls [] = calls :=
  List.append_nil calls

theorem recordOf_cons (calls : List Call) (key : Text) (value : Value)
    (answers : List (Text × Value)) :
    recordOf (calls ++ [some key]) answers = recordOf calls ((key, value) :: answers) := by
  rw [recordOf, recordOf, List.map_cons, List.append_assoc]
  rfl

theorem filter_cons_of_ne_nil {keys : List Text} (hkey : key ≠ []) :
    (key :: keys).filter (· ≠ []) = key :: keys.filter (· ≠ []) :=
  List.filter_cons_of_pos (decide_eq_true hkey)

/-- An empty key adds nothing to the account. -/
theorem Accounted.unkeyed {keys : List Text} (hfirst : form.First text before [] rest)
    (h : form.Accounted replacer calls rest keys result record) :
    form.Accounted replacer calls text ([] :: keys)
      (result.map (before ++ form.placeholder [] ++ ·)) record := by
  cases h with
  | completed hanswers hkeys hunchanged =>
    refine .completed hanswers hkeys fun hrejected => ?_
    rw [hunchanged hrejected, hfirst.text_eq]
    exact List.append_assoc before (form.placeholder []) rest
  | stopped hanswers hkeys hanswer => exact .stopped hanswers hkeys hanswer

/-- An answered key comes first in the account. -/
theorem Accounted.answered {keys : List Text} {value : Value}
    (hfirst : form.First text before key rest) (hkey : key ≠ [])
    (hanswer : replacer.answer calls (some key) = .ok value)
    (h : form.Accounted replacer (calls ++ [some key]) rest keys result record) :
    form.Accounted replacer calls text (key :: keys)
      (result.map (before ++ form.emitted key value ++ ·)) record := by
  cases h with
  | @completed output answers hanswers hkeys hunchanged =>
    rw [recordOf_cons calls key value]
    refine .completed (.cons hanswer hanswers) ?_ fun hrejected => ?_
    · rw [filter_cons_of_ne_nil hkey, ← hkeys]
      rfl
    · obtain ⟨hvalue, hmore⟩ := List.forall_mem_cons.mp hrejected
      rw [hunchanged hmore, hfirst.text_eq, emitted, hvalue]
      exact List.append_assoc before (form.placeholder key) rest
  | @stopped failure answers last hanswers hkeys hlast =>
    rw [recordOf_cons calls key value] at hlast ⊢
    refine .stopped (.cons hanswer hanswers) ?_ hlast
    rw [filter_cons_of_ne_nil hkey]
    exact List.cons_prefix_cons.mpr ⟨rfl, hkeys⟩

/-- Every pass is accounted for. -/
theorem Scanned.accounted (h : form.Scanned replacer calls text result record) :
    ∃ keys, form.HasKeys text keys ∧ form.Accounted replacer calls text keys result record := by
  induction h with
  | @plain calls text hplain =>
    have haccounted : form.Accounted replacer calls text [] (.ok text) (recordOf calls []) :=
      .completed .nil rfl fun _ => rfl
    rw [recordOf_nil] at haccounted
    exact ⟨[], .plain hplain, haccounted⟩
  | unkeyed hfirst _ ih =>
    obtain ⟨keys, hkeys, haccounted⟩ := ih
    exact ⟨[] :: keys, .placeholder hfirst hkeys, haccounted.unkeyed hfirst⟩
  | @failed calls text before key rest failure hfirst hkey hanswer =>
    obtain ⟨keys, hkeys⟩ := form.exists_hasKeys rest
    have hfirstKey : [key] <+: (key :: keys).filter (· ≠ []) := by
      rw [filter_cons_of_ne_nil hkey]
      exact List.cons_prefix_cons.mpr ⟨rfl, List.nil_prefix⟩
    have haccounted : form.Accounted replacer calls text (key :: keys) (.error failure)
        (recordOf calls [] ++ [some key]) :=
      .stopped .nil hfirstKey (by rw [recordOf_nil]; exact hanswer)
    rw [recordOf_nil] at haccounted
    exact ⟨key :: keys, .placeholder hfirst hkeys, haccounted⟩
  | @answered calls record text before key rest value result hfirst hkey hanswer _ ih =>
    obtain ⟨keys, hkeys, haccounted⟩ := ih
    exact ⟨key :: keys, .placeholder hfirst hkeys, haccounted.answered hfirst hkey hanswer⟩

end KeyedForm

/-- **Applying a keyed filter is the pass**: the result and the record of calls are those of
`Scanned` and no others, and nothing else of the filter changes. Every call is accounted for, by the
keys of the text. Without a closing text, but with something in front of the key, the text stays as
it is and the replacer is not called. -/
theorem Filter.apply_keyed_scanned (form : KeyedForm) (replacer : Replacer) (calls : List Call)
    (text : Text) :
    ∃ result record keys,
      (Filter.apply ⟨.keyed form, some replacer, calls⟩ text).result = result ∧
      (Filter.apply ⟨.keyed form, some replacer, calls⟩ text).filter
        = ⟨.keyed form, some replacer, record⟩ ∧
      (∀ result' record', form.Scanned replacer calls text result' record'
        ↔ result' = result ∧ record' = record) ∧
      form.HasKeys text keys ∧
      form.Accounted replacer calls text keys result record ∧
      (form.right = [] → form.opening ≠ [] → result = .ok text ∧ record = calls) := by
  obtain ⟨result, record, hscanned⟩ := form.exists_scanned replacer calls text
  obtain ⟨keys, hkeys, haccounted⟩ := hscanned.accounted
  obtain ⟨hresult, hcalls⟩ := hscanned.resolvePieces_eq
  obtain ⟨hasResult, hasFilter⟩ := Filter.apply_keyed
    (f := ⟨.keyed form, some replacer, calls⟩) rfl rfl text
  refine ⟨result, record, keys, hasResult.trans hresult, ?_, fun result' record' => ⟨?_, ?_⟩,
    hkeys, haccounted, hscanned.eq_of_right_nil⟩
  · rw [hasFilter, hcalls]
  · intro hother
    obtain ⟨hresult', hcalls'⟩ := hother.resolvePieces_eq
    exact ⟨hresult'.symm.trans hresult, hcalls'.symm.trans hcalls⟩
  · rintro ⟨rfl, rfl⟩
    exact hscanned

/-- For a form without any text of its own, an empty closing text does not make the pass leave the
text as it is: a single character is a key. -/
theorem Filter.apply_keyed_bare :
    ¬ ∀ (form : KeyedForm) (replacer : Replacer) (text : Text), form.right = [] →
      (Filter.apply ⟨.keyed form, some replacer, []⟩ text).result = .ok text := by
  intro h
  have hchanged : Except.ok (ε := Failure) ['7'] = .ok ['a'] :=
    h ⟨[], [], [], []⟩ (.constant (.int 7)) ['a'] rfl
  exact absurd (Except.ok.inj hchanged) (by decide)

end Formulary
