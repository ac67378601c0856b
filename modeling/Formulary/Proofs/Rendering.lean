/-
Formulary.Proofs.Rendering — tokens written as text, and what the evaluator makes of the text.

A sequence of tokens is `Rendered` as a text when the text is made of one spelling of each, with any
blanks between them and at both ends. Before formula text is read, white space is taken from its
ends and each caret is spelled as two stars. Neither changes which tokens the text renders, so a
rendering may be read as it is afterwards: without carets, and with a token at its head.
-/
import Mathlib.Data.List.TakeWhile
import Formulary.Expr.Eval
import Formulary.Proofs.Reading

namespace Formulary

/-! ## Renderings -/

/-- Nothing but the blanks that may stand between tokens. -/
def IsGap (gap : Text) : Prop :=
  ∀ c ∈ gap, Token.isSpace c = true

instance (gap : Text) : Decidable (IsGap gap) :=
  List.decidableBAll (fun c => Token.isSpace c = true) gap

/-- A text that consists of one spelling of each item, with gaps around and between them. -/
inductive Rendered {α : Type} (IsSpelled : α → Text → Prop) : List α → Text → Prop
  | nil {gap : Text} : IsGap gap → Rendered IsSpelled [] gap
  | cons {gap word behind : Text} {a : α} {rest : List α} :
    IsGap gap → IsSpelled a word → Rendered IsSpelled rest behind →
      Rendered IsSpelled (a :: rest) (gap ++ word ++ behind)

namespace Rendered

variable {α : Type} {IsSpelled : α → Text → Prop} {items : List α} {text : Text}

/-- An item may stand in front without a gap. -/
theorem item {a : α} (word : Text) (hword : IsSpelled a word)
    (h : Rendered IsSpelled items text) : Rendered IsSpelled (a :: items) (word ++ text) := by
  have hgap : IsGap [] := nofun
  exact .cons hgap hword h

/-- A blank may stand in front of anything. -/
theorem blank {c : Char} (hc : Token.isSpace c = true) (h : Rendered IsSpelled items text) :
    Rendered IsSpelled items (c :: text) := by
  cases h with
  | nil hgap => exact .nil (List.forall_mem_cons.mpr ⟨hc, hgap⟩)
  | cons hgap hword hbehind =>
    exact .cons (List.forall_mem_cons.mpr ⟨hc, hgap⟩) hword hbehind

end Rendered

/-! ## Characters of a rendering -/

/-- The characters that tokens of formulas are spelled with. -/
def Token.isWritten (c : Char) : Bool :=
  c.isAlphanum || "+-*/%(),^.".toList.contains c

/-- Integers and names are written with letters and digits; every other token with a listed spelling
is a symbol. -/
theorem Token.isAlphanum_or_symbol {t : Token} {word : Text} (hword : word ∈ t.spellings) :
    (word ≠ [] ∧ ∀ c ∈ word, c.isAlphanum = true) ∨ ∃ mark, t = .symbol mark := by
  cases t with
  | number value =>
    cases value with
    | int n =>
      obtain rfl := List.mem_singleton.mp hword
      refine .inl ⟨Number.natText_ne_nil n, ?_⟩
      intro c hc
      simp [Char.isAlphanum, Number.isDigit_of_mem_natText hc]
    | _ => exact absurd hword List.not_mem_nil
  | name id =>
    rw [spellings] at hword
    split at hword
    case isTrue hknown =>
      obtain rfl := List.mem_singleton.mp hword
      have hplain := Text.isPlainWord_of_isKnownName hknown
      simp only [Text.isPlainWord, Bool.and_eq_true, List.all_eq_true] at hplain
      refine .inl ⟨?_, hplain.1.2⟩
      rintro rfl
      cases hplain.1.1
    case isFalse => exact absurd hword List.not_mem_nil
  | symbol mark => exact .inr ⟨mark, rfl⟩
  | keyword | quotation | lineEnd => exact absurd hword List.not_mem_nil

/-- Numerals of doubles are written with characters of tokens. -/
theorem Token.isWritten_of_isPart {c : Char} (h : Numeral.isPart c = true) :
    isWritten c = true := by
  rw [Numeral.isPart, Bool.or_eq_true, List.contains_iff_mem] at h
  rcases h with h | h
  · simp [isWritten, Char.isAlphanum, h]
  · have hall : ".eE+-".toList.all isWritten = true := by decide
    exact List.all_eq_true.mp hall c h

/-- The tokens of formulas are written with at least one character, and with no blanks. -/
theorem Token.spelling_written {t : Token} {word : Text} (hword : t.IsSpelled word) :
    word ≠ [] ∧ ∀ c ∈ word, isWritten c = true := by
  cases hword with
  | double d =>
    refine ⟨?_, fun c hc => isWritten_of_isPart (Numeral.isPart_of_mem_text hc)⟩
    obtain ⟨c, tail, htext, -⟩ := Numeral.exists_head_text d
    rw [htext]
    exact List.cons_ne_nil c tail
  | listed hword =>
    rcases isAlphanum_or_symbol hword with ⟨hne, hall⟩ | ⟨mark, rfl⟩
    · refine ⟨hne, ?_⟩
      intro c hc
      simp [isWritten, hall c hc]
    · have hall : (Token.symbol mark).spellings.all
          (fun word => !word.isEmpty && word.all isWritten) = true := by
        cases mark <;> decide
      have hboth := List.all_eq_true.mp hall word hword
      rw [Bool.and_eq_true, List.all_eq_true] at hboth
      refine ⟨?_, hboth.2⟩
      rintro rfl
      cases hboth.1

theorem Token.isBlank_of_isWritten {c : Char} (h : isWritten c) : Text.isBlank c = false := by
  have hascii : c.toNat < 128 := by
    rw [isWritten, Bool.or_eq_true] at h
    rcases h with h | h
    · exact Text.toNat_lt_of_isAlphanum h
    · exact Text.toNat_lt_of_mem (by decide) (List.contains_iff_mem.mp h)
  exact Text.forall_ascii (p := fun c => isWritten c = true → Text.isBlank c = false) (by decide)
    c hascii h

theorem IsGap.isBlank {gap : Text} (h : IsGap gap) : ∀ c ∈ gap, Text.isBlank c = true := by
  intro c hc
  have hspace := h c hc
  simp only [Token.isSpace, Bool.or_eq_true, beq_iff_eq] at hspace
  rcases hspace with (rfl | rfl) | rfl <;> decide

variable {ts : List Token} {text : Text}

/-- A rendering consists of blanks and of the characters of tokens. -/
theorem Rendered.isWritten (h : Rendered Token.IsSpelled ts text) :
    ∀ c ∈ text, Token.isSpace c = true ∨ Token.isWritten c = true := by
  induction h with
  | nil hgap =>
    intro c hc
    exact .inl (hgap c hc)
  | cons hgap hword _ ih =>
    intro c hc
    rcases List.mem_append.mp hc with hc | hc
    · rcases List.mem_append.mp hc with hc | hc
      · exact .inl (hgap c hc)
      · exact .inr ((Token.spelling_written hword).2 c hc)
    · exact ih c hc

/-- A rendering has at least as many characters as tokens. -/
theorem Rendered.length_le (h : Rendered Token.IsSpelled ts text) : ts.length ≤ text.length := by
  induction h with
  | nil => exact Nat.zero_le _
  | cons _ hword _ ih =>
    have hpos := List.length_pos_iff.mpr (Token.spelling_written hword).1
    simp only [List.length_cons, List.length_append]
    omega

/-! ## White space at the ends -/

theorem Text.stripEnd_append (s t : Text) :
    stripEnd (s ++ t) = if (stripEnd t).isEmpty then stripEnd s else s ++ stripEnd t := by
  simp only [stripEnd, List.reverse_append, List.dropWhile_append, List.isEmpty_reverse]
  split <;> simp

theorem Text.stripEnd_of_written {word : Text} (hword : ∀ c ∈ word, Token.isWritten c = true) :
    stripEnd word = word := by
  have hdrop : word.reverse.dropWhile isBlank = word.reverse := by
    cases hreverse : word.reverse with
    | nil => rfl
    | cons c rest =>
      have hc : c ∈ word := List.mem_reverse.mp (hreverse ▸ List.mem_cons_self)
      exact List.dropWhile_cons_of_neg (by simp [Token.isBlank_of_isWritten (hword c hc)])
  rw [stripEnd, hdrop, List.reverse_reverse]

theorem IsGap.stripEnd {gap : Text} (h : IsGap gap) : Text.stripEnd gap = [] := by
  have hblank : ∀ c ∈ gap.reverse, Text.isBlank c = true := fun c hc =>
    h.isBlank c (List.mem_reverse.mp hc)
  rw [Text.stripEnd, List.dropWhile_eq_nil_iff.mpr hblank]
  rfl

/-- White space at the end belongs to the last gap. -/
theorem Rendered.stripEnd (h : Rendered Token.IsSpelled ts text) :
    Rendered Token.IsSpelled ts (Text.stripEnd text) := by
  induction h with
  | nil hgap =>
    rw [hgap.stripEnd]
    exact .nil nofun
  | @cons gap word behind t ts hgap hword hbehind ih =>
    obtain ⟨hne, hwritten⟩ := Token.spelling_written hword
    rw [Text.stripEnd_append]
    split
    case isTrue hempty =>
      -- Only white space is behind this token, so it is the last one.
      have hlast : ts = [] := by
        rw [List.isEmpty_iff.mp hempty] at ih
        exact List.eq_nil_of_length_eq_zero (Nat.le_zero.mp ih.length_le)
      subst hlast
      rw [Text.stripEnd_append, Text.stripEnd_of_written hwritten, if_neg (by simpa using hne)]
      have hnil : Rendered Token.IsSpelled [] [] := .nil nofun
      simpa using Rendered.cons hgap hword hnil
    case isFalse => exact .cons hgap hword ih

/-- White space in front belongs to the first gap. -/
theorem Rendered.strip (h : Rendered Token.IsSpelled ts text) :
    Rendered Token.IsSpelled ts (Text.strip text) := by
  refine Rendered.stripEnd ?_
  cases h with
  | nil hgap =>
    rw [List.dropWhile_eq_nil_iff.mpr hgap.isBlank]
    exact .nil nofun
  | @cons gap word behind t ts hgap hword hbehind =>
    obtain ⟨hne, hwritten⟩ := Token.spelling_written hword
    obtain ⟨c, rest, rfl⟩ := List.exists_cons_of_ne_nil hne
    have hc := Token.isBlank_of_isWritten (hwritten c List.mem_cons_self)
    rw [List.append_assoc, List.dropWhile_append_of_pos hgap.isBlank, List.cons_append,
      List.dropWhile_cons_of_neg (by simp [hc])]
    exact .item _ hword hbehind

/-- Text without white space at its ends begins with something else. -/
theorem Text.isBlank_of_head?_strip (text : Text) :
    ∀ c ∈ (strip text).head?, isBlank c = false := by
  have hprefix : strip text <+: text.dropWhile isBlank := by
    have hsuffix := List.dropWhile_suffix isBlank (l := (text.dropWhile isBlank).reverse)
    rw [← List.reverse_prefix, List.reverse_reverse] at hsuffix
    exact hsuffix
  obtain ⟨behind, hbehind⟩ := hprefix
  intro c hc
  have hhead := List.head?_dropWhile_not isBlank text
  rw [← hbehind] at hhead
  cases hstrip : strip text with
  | nil => rw [hstrip] at hc; cases hc
  | cons d rest =>
    rw [hstrip] at hc hhead
    cases hc
    exact hhead

/-! ## Carets -/

/-- A caret spelled as the operator that it stands for, any other character as it is. -/
def Text.spellOut (text : Text) : Text :=
  text.flatMap fun c => if c = '^' then ['*', '*'] else [c]

theorem Text.spellOut_append (s t : Text) : spellOut (s ++ t) = spellOut s ++ spellOut t :=
  List.flatMap_append

theorem Text.spellOut_of_not_mem {text : Text} (h : '^' ∉ text) : spellOut text = text := by
  induction text with
  | nil => rfl
  | cons c rest ih =>
    simp only [List.mem_cons, not_or] at h
    rw [spellOut, List.flatMap_cons, if_neg (Ne.symm h.1)]
    exact congrArg (c :: ·) (ih h.2)

theorem Text.not_mem_spellOut (text : Text) : '^' ∉ spellOut text := by
  intro h
  obtain ⟨c, -, hc⟩ := List.mem_flatMap.mp h
  split at hc
  case isTrue => simp at hc
  case isFalse hne => exact hne (List.mem_singleton.mp hc).symm

/-- The only spelling with a caret is one of two, of which the other has two stars. -/
theorem Token.spellOut_mem {t : Token} {word : Text} (hword : t.IsSpelled word) :
    t.IsSpelled (Text.spellOut word) := by
  cases hword with
  | double d =>
    have hcaret : '^' ∉ d.text :=
      Text.not_mem_of_forall (fun c hc => Numeral.isPart_of_mem_text hc) rfl
    rw [Text.spellOut_of_not_mem hcaret]
    exact .double d
  | listed hword =>
    refine .listed ?_
    rcases isAlphanum_or_symbol hword with ⟨-, hall⟩ | ⟨mark, rfl⟩
    · have hcaret : '^' ∉ word := Text.not_mem_of_forall hall rfl
      rwa [Text.spellOut_of_not_mem hcaret]
    · revert word
      cases mark <;> decide

/-- A rendering stays one when its carets are spelled out. -/
theorem Rendered.spellOut (h : Rendered Token.IsSpelled ts text) :
    Rendered Token.IsSpelled ts (Text.spellOut text) := by
  have hcaret : ∀ {gap : Text}, IsGap gap → '^' ∉ gap := by
    intro gap hgap
    exact Text.not_mem_of_forall hgap rfl
  induction h with
  | nil hgap =>
    rw [Text.spellOut_of_not_mem (hcaret hgap)]
    exact .nil hgap
  | cons hgap hword _ ih =>
    rw [Text.spellOut_append, Text.spellOut_append, Text.spellOut_of_not_mem (hcaret hgap)]
    exact .cons hgap (Token.spellOut_mem hword) ih

/-! ## The text that is read -/

/-- The text that is read of a rendering renders the same tokens. It has no carets, and does not
begin with a blank. -/
theorem Rendered.formulaSource (h : Rendered Token.IsSpelled ts text) :
    Rendered Token.IsSpelled ts (formulaSource text) ∧ '^' ∉ formulaSource text ∧
      ∀ c ∈ (formulaSource text).head?, Text.isBlank c = false := by
  refine ⟨h.strip.spellOut, Text.not_mem_spellOut _, ?_⟩
  have hhead := Text.isBlank_of_head?_strip text
  show ∀ c ∈ (Text.spellOut (Text.strip text)).head?, Text.isBlank c = false
  cases hstrip : Text.strip text with
  | nil => exact nofun
  | cons d rest =>
    rw [hstrip] at hhead
    rw [Text.spellOut, List.flatMap_cons]
    split
    case isTrue => rintro _ ⟨⟩; rfl
    case isFalse => exact hhead

end Formulary
