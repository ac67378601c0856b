/-
Formulary.Proofs.PlaceholderValue — evaluating a formula with integers for its placeholders.

A formula with placeholders is written with each of them in braces, and a rack that has an integer
for each is built from the table of the integers. Substituting gives a text which renders the
settled formula, so evaluating it gives the outcome of that formula. This is the formula with each
placeholder read as its number, unless a negative number is put at the base of a power.
-/
import Mathlib.Data.List.Nodup
import Formulary.Build
import Formulary.Proofs.Diagnostics
import Formulary.Proofs.FormulaText
import Formulary.Proofs.Settling
import Formulary.Proofs.SubstitutionOrder

namespace Formulary

open Placeholder

/-! ## Filling a written formula -/

/-- How lexemes are spelled, given the text that a hole is written as. -/
def Lexeme.IsSpelled {Hole : Type} (label : Hole → Text) : Lexeme Hole → Text → Prop
  | .token t, word => t.IsSpelled word
  | .hole h, word => word = label h

/-- The text of an integer consists of digits, behind a minus perhaps. -/
theorem Number.mem_intText {n : Int} {c : Char} (h : c ∈ intText n) :
    c = '-' ∨ c.isDigit = true := by
  unfold intText at h
  split at h
  case isTrue =>
    rcases List.mem_cons.mp h with rfl | h
    · exact .inl rfl
    · exact .inr (isDigit_of_mem_natText h)
  case isFalse => exact .inr (isDigit_of_mem_natText h)

theorem Number.intText_ne_nil (n : Int) : intText n ≠ [] := by
  unfold intText
  split
  case isTrue => exact List.cons_ne_nil _ _
  case isFalse => exact natText_ne_nil _

theorem Number.isPlain_intText (n : Int) : IsPlain (intText n) := by
  intro c hc
  rcases mem_intText hc with rfl | hdigit
  · rfl
  · exact Text.forall_ascii (p := fun c => c.isDigit = true → isBrace c = false) (by decide) c
      (Text.toNat_lt_of_isAlphanum (by simp [Char.isAlphanum, hdigit])) hdigit

/-- The text of an integer may be put into a template: it is no word for nothing. -/
theorem Number.accepted?_intText (n : Int) :
    Replacement.accepted? (some (intText n)) = some (intText n) := by
  have hvalid : Replacement.isValidText (intText n) = true := by
    have hwords : Replacement.missingWords.all
        (fun word => word.any fun c => c != '-' && !c.isDigit) = true := by decide
    simp only [Replacement.isValidText, Bool.and_eq_true, Bool.not_eq_true',
      List.isEmpty_eq_false_iff]
    refine ⟨intText_ne_nil n, Bool.eq_false_iff.mpr fun hmem => ?_⟩
    have hany := List.all_eq_true.mp hwords _ (List.contains_iff_mem.mp hmem)
    obtain ⟨c, hc, hother⟩ := List.any_eq_true.mp hany
    rw [Bool.and_eq_true, bne_iff_ne, Bool.not_eq_true'] at hother
    rcases mem_intText hc with h | h
    · exact hother.1 h
    · rw [hother.2] at h
      cases h
  rw [Replacement.accepted?, if_pos hvalid]

namespace Rendered

variable {Hole : Type} {label : Hole → Text} {lexemes : List (Lexeme Hole)} {template : Text}

/-- The text of an integer renders its tokens. -/
theorem ofInt {ts : List Token} {gap behind : Text} (n : Int) (hgap : IsGap gap)
    (h : Rendered Token.IsSpelled ts behind) :
    Rendered Token.IsSpelled (Token.ofInt n ++ ts) (gap ++ Number.intText n ++ behind) := by
  have hdigits : Rendered Token.IsSpelled (.number (.int n.natAbs) :: ts)
      (Number.natText n.natAbs ++ behind) := .item _ (.listed (by simp [Token.spellings])) h
  rw [Token.ofInt, Number.intText]
  split
  case isTrue =>
    have hminus : Rendered Token.IsSpelled (.symbol .minus :: .number (.int n.natAbs) :: ts)
        (gap ++ ['-'] ++ (Number.natText n.natAbs ++ behind)) :=
      .cons hgap (.listed (by decide)) hdigits
    simpa using hminus
  case isFalse => exact .cons hgap (.listed (by simp [Token.spellings])) h

/-- No brace stands in a gap. -/
theorem not_mem_opening_of_gap {gap : Text} (h : IsGap gap) : '\x7b' ∉ gap :=
  Text.not_mem_of_forall h rfl

/-- No brace stands in a token. -/
theorem not_mem_opening_of_spelling {t : Token} {word : Text} (h : t.IsSpelled word) :
    '\x7b' ∉ word :=
  Text.not_mem_of_forall (Token.spelling_written h).2 rfl

/-- A formula whose holes are written as placeholders has the shape of a template. -/
theorem shaped (hlabel : ∀ h, ∃ name, IsPlain name ∧ label h = fragment name)
    (h : Rendered (Lexeme.IsSpelled label) lexemes template) : Shaped template := by
  induction h with
  | @nil gap hgap =>
    rw [← List.append_nil gap]
    exact .append (not_mem_opening_of_gap hgap) .nil
  | @cons gap word behind lexeme rest hgap hword _ ih =>
    rw [List.append_assoc]
    refine .append (not_mem_opening_of_gap hgap) ?_
    cases lexeme with
    | token t => exact .append (not_mem_opening_of_spelling hword) ih
    | hole h =>
      obtain rfl : word = label h := hword
      obtain ⟨name, hname, hfragment⟩ := hlabel h
      rw [hfragment]
      exact .fragment hname ih

/-- **Filling a written formula with integers renders the settled tokens.** -/
theorem fill {value : Hole → Int} {new? : Text → Option Text}
    (hlabel : ∀ h, ∃ name, IsPlain name ∧ label h = fragment name)
    (hnew : ∀ h, new? (label h) = some (Number.intText (value h)))
    (h : Rendered (Lexeme.IsSpelled label) lexemes template) :
    Rendered Token.IsSpelled (lexemes.flatMap (Lexeme.settle value))
      (Placeholder.fill new? template) := by
  induction h with
  | @nil gap hgap =>
    have hcopy := fill_append (not_mem_opening_of_gap hgap) new? []
    rw [List.append_nil, fill_nil, List.append_nil] at hcopy
    rw [hcopy]
    exact .nil hgap
  | @cons gap word behind lexeme rest hgap hword _ ih =>
    rw [List.append_assoc, fill_append (not_mem_opening_of_gap hgap)]
    cases lexeme with
    | token t =>
      rw [fill_append (not_mem_opening_of_spelling hword), ← List.append_assoc]
      exact .cons hgap hword ih
    | hole h =>
      obtain rfl : word = label h := hword
      obtain ⟨name, hname, hfragment⟩ := hlabel h
      have hnew := hnew h
      rw [hfragment] at hnew ⊢
      rw [fill_fragment_of_some hname hnew, ← List.append_assoc]
      exact ofInt (value h) hgap ih

end Rendered

/-! ## Integers for placeholders -/

/-- In a table with distinct names, every entry is found by its name. -/
theorem Entries.get?_of_mem {α : Type} {entries : Entries α}
    (hdistinct : (entries.map Prod.fst).Nodup) {name : Text} {value : α}
    (h : (name, value) ∈ entries) : entries.get? name = some value := by
  induction entries with
  | nil => exact absurd h List.not_mem_nil
  | cons entry rest ih =>
    obtain ⟨other, old⟩ := entry
    rw [List.map_cons, List.nodup_cons] at hdistinct
    rcases List.mem_cons.mp h with heq | hrest
    · cases heq
      rw [get?, if_pos rfl]
    · have hne : other ≠ name := by
        rintro rfl
        exact hdistinct.1 (List.mem_map.mpr ⟨(other, value), hrest, rfl⟩)
      rw [get?, if_neg hne]
      exact ih hdistinct.2 hrest

/-- Integers for placeholders with distinct names. An integer has to have a text, which it has up to
a number of digits; a filter that cannot write its integer fails. -/
structure Valuation where
  names : List Text
  distinct : names.Nodup
  plain : ∀ name ∈ names, IsPlain name
  value : { name // name ∈ names } → Int
  hasText : ∀ h, (Value.int (value h)).hasText = true

namespace Valuation

variable (v : Valuation)

/-- The placeholders that have an integer. -/
abbrev Hole : Type :=
  { name // name ∈ v.names }

/-- The text of a placeholder. -/
def label (h : v.Hole) : Text :=
  fragment h.val

/-- The table of the integers. -/
def entries : Entries Value :=
  v.names.attach.map fun h => (v.label h, .int (v.value h))

/-- The rack that is built from the table. -/
def rack : Rack :=
  Rack.build v.entries [] []

theorem label_eq (h : v.Hole) : ∃ name, IsPlain name ∧ v.label h = fragment name :=
  ⟨h.val, v.plain h.val h.property, rfl⟩

theorem map_fst_entries : v.entries.map Prod.fst = v.names.map fragment := by
  rw [entries, List.map_map]
  exact List.attach_map_val (f := fragment)

theorem distinct_entries : (v.entries.map Prod.fst).Nodup := by
  rw [map_fst_entries]
  exact List.Nodup.map fragment_injective v.distinct

/-- The filter for a placeholder. -/
def filter (h : v.Hole) : Filter where
  kind := .overridable (v.label h) []
  replacer := some (Replacer.constant (.int (v.value h)))

/-- The rack has one filter for each placeholder, which always gives its integer. -/
theorem rack_eq : v.rack = v.names.attach.map v.filter := by
  have hfilter : ∀ h ∈ v.names.attach, Rack.tokenFilter v.entries [] (v.label h) = v.filter h := by
    intro h hh
    have hget : v.entries.get? (v.label h) = some (.int (v.value h)) :=
      Entries.get?_of_mem v.distinct_entries (List.mem_map_of_mem (f := fun h => (v.label h, _)) hh)
    rw [Rack.tokenFilter, hget]
    rfl
  simp only [rack, Rack.build, Rack.tokens, List.map_nil, List.filter_nil, List.append_nil]
  rw [List.map_map]
  -- The table that the filters are looked up in stays the same while its entries are gone through.
  have htable : ∀ table, v.entries.map (fun entry => Rack.tokenFilter table [] entry.1)
      = v.names.attach.map fun h => Rack.tokenFilter table [] (v.label h) := by
    intro table
    rw [entries, List.map_map]
    rfl
  exact (htable v.entries).trans (List.map_congr_left hfilter)

theorem replacement?_filter (h : v.Hole) :
    (v.filter h).replacement? = some (Number.intText (v.value h)) :=
  Number.accepted?_intText (v.value h)

theorem isSettled_filter (h : v.Hole) : (v.filter h).IsSettled where
  notKeyed := nofun
  token_eq := v.label_eq h
  constant _ _ hreplacer := ⟨_, (Option.some.inj hreplacer).symm⟩
  plain new hnew := by
    rw [replacement?_filter] at hnew
    exact Option.some.inj hnew ▸ Number.isPlain_intText _

theorem isSettled_rack : ∀ f ∈ v.rack, f.IsSettled := by
  rw [rack_eq]
  intro f hf
  obtain ⟨h, -, rfl⟩ := List.mem_map.mp hf
  exact v.isSettled_filter h

/-- The rack puts the text of its integer in the place of a placeholder. -/
theorem replacement?_rack (h : v.Hole) :
    v.rack.replacement? (v.label h) = some (Number.intText (v.value h)) := by
  have hdistinct : (v.rack.map Filter.token).Nodup := by
    have htokens : v.rack.map Filter.token = v.entries.map Prod.fst := by
      rw [rack_eq, entries, List.map_map, List.map_map]
      rfl
    rw [htokens]
    exact v.distinct_entries
  rw [Rack.replacement?_eq_some_iff hdistinct, rack_eq]
  exact ⟨v.filter h, List.mem_map_of_mem (List.mem_attach _ h), rfl, v.replacement?_filter h⟩

end Valuation

/-! ## Evaluating the whole -/

namespace Valuation

open Formula

variable (v : Valuation)

/-- **A placeholder stands for its number**, except that a minus at the base of a power stands in
front of the power. Substituting never fails, and the outcome is that of the settled formula. If no
placeholder for a negative integer is the base of a power, this is the formula itself with each
placeholder read as its integer, which has the value of that number (`Formula.eval_ofInt`). -/
theorem evaluateWhole_rendered {f : Formula v.Hole} {template : Text} (limits : Limits)
    (h : Rendered (Lexeme.IsSpelled v.label) (f.lexemes sparing .whole) template)
    (hlength : ((fill v.rack.replacement? template).length : Int) ≤ limits.maxLength)
    (hnesting : NestsWithin Token.maxNesting (fill v.rack.replacement? template))
    (hshort : ∀ t ∈ (f.settle v.value).tokens sparing .whole, t.isShort) :
    let outcome := ((f.settle v.value).toExpr Empty.elim).eval limits.maxExponent
    ∃ evaluation, (v.rack.evaluateWhole limits template).result = .ok evaluation ∧
      evaluation.substituted = some (fill v.rack.replacement? template) ∧
      evaluation.result = outcome.toOption ∧
      (evaluation.error = match outcome with
        | .ok _ => none
        | .error error => some (Rejection.failed error).line) ∧
      ((∀ h ∈ f.bases, 0 ≤ v.value h) →
        (f.settle v.value).toExpr Empty.elim
          = f.toExpr fun h => (ofInt (v.value h)).toExpr Empty.elim) := by
  intro outcome
  have hsubstitute : (v.rack.substitute template).result
      = .ok (fill v.rack.replacement? template) :=
    Rack.substitute_eq_fill v.isSettled_rack (h.shaped v.label_eq)
  have hfilled := h.fill v.label_eq v.replacement?_rack
  rw [tokens_settle f .whole fun _ _ => .inr (by decide)] at hfilled
  have houtcome : evaluate limits (fill v.rack.replacement? template)
      = outcome.mapError Rejection.failed :=
    evaluate_of_ofText? hlength (contains_null hfilled.formulaSource.1)
      (ofText?_formulaSource hfilled hnesting hshort)
  have hresult := Rack.evaluateWhole_of_substitute limits hsubstitute
  rw [houtcome] at hresult
  refine ⟨_, hresult, ?_⟩
  cases outcome with
  | ok x => exact ⟨rfl, rfl, rfl, toExpr_settle f⟩
  | error error => exact ⟨rfl, rfl, rfl, toExpr_settle f⟩

/-- With minus three for `x` and four for `y`, the formula `0.5 * x - y` is minus five and a
half. -/
theorem evaluateWhole_rendered_difference :
    let v : Valuation :=
      { names := [['x'], ['y']], distinct := by decide, plain := by decide
        value := fun h => if h.val = ['x'] then -3 else 4
        hasText := fun _ => by split <;> decide }
    let half : DoubleNumeral :=
      { whole := ['0'], fraction := some ['5'], exponent := none
        isDigit_whole := List.forall_mem_singleton.mpr rfl
        isDigit_fraction := by rintro _ ⟨⟩; exact List.forall_mem_singleton.mpr rfl
        digits_ne_nil := by decide, marked := by decide }
    let f : Formula v.Hole :=
      .binary .subtract (.binary .multiply (.double half.value) (.hole ⟨['x'], by decide⟩))
        (.hole ⟨['y'], by decide⟩)
    let limits : Limits := { maxLength := 1000, maxExponent := 1000 }
    let template : Text := "0.5*\x7bx\x7d - \x7by\x7d".toList
    let outcome := (f.toExpr fun h => (ofInt (v.value h)).toExpr Empty.elim).eval 1000
    ∃ evaluation, (v.rack.evaluateWhole limits template).result = .ok evaluation ∧
      evaluation.result = some (-5.5) ∧ evaluation.result = outcome.toOption := by
  intro v half f limits template outcome
  have hrendered : Rendered (Lexeme.IsSpelled v.label) (f.lexemes sparing .whole) template :=
    .item ['0', '.', '5'] (.double half) <| .item ['*'] (.listed (by decide)) <|
    .item (fragment ['x']) rfl <| .blank rfl <|
    .item ['-'] (.listed (by decide)) <| .blank rfl <|
    .item (fragment ['y']) rfl <| .nil (by decide)
  have hfilled : fill v.rack.replacement? template = "0.5*-3 - 4".toList := by decide
  have hnesting : NestsWithin Token.maxNesting (fill v.rack.replacement? template) := by
    intro before hbefore
    have hcount := hbefore.sublist.count_le '('
    rw [hfilled] at hcount
    exact Nat.le_add_left_of_le (Nat.le_trans hcount (by decide))
  obtain ⟨evaluation, hevaluation, -, hresult, -, hplain⟩ :=
    v.evaluateWhole_rendered limits hrendered (by rw [hfilled]; decide) hnesting (by decide)
  rw [hplain (by decide)] at hresult
  exact ⟨evaluation, hevaluation, hresult.trans (by decide +kernel), hresult⟩

/-- A negative number at the base of a power is not read as that number: with minus one for `x`, the
formula `x ^ 2` is minus one, although every limit is kept and the square of minus one is one. -/
theorem evaluateWhole_negative_base :
    let v : Valuation :=
      { names := [['x']], distinct := by decide, plain := by decide, value := fun _ => -1
        hasText := fun _ => by decide }
    let f : Formula v.Hole := .binary .power (.hole ⟨['x'], by decide⟩) (.numeral 2)
    let limits : Limits := { maxLength := 1000, maxExponent := 1000 }
    let template : Text := "\x7bx\x7d^2".toList
    let outcome := (f.toExpr fun h => (ofInt (v.value h)).toExpr Empty.elim).eval 1000
    Rendered (Lexeme.IsSpelled v.label) (f.lexemes sparing .whole) template ∧
      (∃ evaluation, (v.rack.evaluateWhole limits template).result = .ok evaluation ∧
        evaluation.substituted = some "-1^2".toList ∧ evaluation.result = some (-1.0)) ∧
      outcome.toOption = some 1.0 ∧ (-1.0 : Float) ≠ 1.0 := by
  intro v f limits template outcome
  have hsubstitute : (v.rack.substitute template).result = .ok "-1^2".toList :=
    eq_ok_of_toOption (by decide +kernel)
  have hvalue : evaluate limits "-1^2".toList = .ok (-1.0) := eq_ok_of_toOption (by decide +kernel)
  have hresult := Rack.evaluateWhole_of_substitute limits hsubstitute
  rw [hvalue] at hresult
  refine ⟨?_, ⟨_, hresult, rfl, rfl⟩, by decide +kernel, by decide +kernel⟩
  exact .item (fragment ['x']) rfl <| .item ['^'] (.listed (by decide)) <|
    .item ['2'] (.listed (by decide)) <| .nil (by decide)

end Valuation

end Formulary
