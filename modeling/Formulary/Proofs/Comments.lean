/-
Formulary.Proofs.Comments — the comments of formula text, and text that is clear outside of them.

A comment runs from a number sign to the end of the line. A number sign inside a quotation begins
none, so whether a character belongs to a comment depends on the text in front of it. `Zone` keeps
what is needed of that: a character stands in the code, in a comment, or somewhere behind a quote.
Behind a quote nothing is told apart any more; a text with a quotation has no value in any case.

A text is `Clear` if it has braces and quotes in its comments only. Before formula text is cut into
tokens, white space is taken from its ends, carets are spelled out, and line ends get one form. A
text that is clear afterwards was clear before.
-/
import Formulary.Placeholder
import Formulary.Proofs.Rendering

namespace Formulary

/-! ## Zones -/

/-- Where a character of formula text stands. -/
inductive Zone
  | code
  | comment
  | quoted
deriving DecidableEq

namespace Zone

/-- The zone behind a character. -/
def next : Zone → Char → Zone
  | .code, c => if c = '#' then .comment else if Quotation.isQuote c then .quoted else .code
  | .comment, c => if c = '\n' ∨ c = '\r' then .code else .comment
  | .quoted, _ => .quoted

/-- The zone behind a text that begins in this one. -/
def behind (zone : Zone) (text : Text) : Zone :=
  text.foldl next zone

@[simp]
theorem behind_cons (zone : Zone) (c : Char) (text : Text) :
    zone.behind (c :: text) = (zone.next c).behind text :=
  rfl

end Zone

/-- The characters that can end the code, or that no arithmetic is written with: the braces, the
quotes and the number sign. -/
def Text.marks : Text :=
  ['\x7b', '\x7d', Text.singleQuote, Text.doubleQuote, '#']

/-- Whether a character is none of the marks. -/
def Text.isOrdinary (c : Char) : Bool :=
  !Text.marks.contains c

/-- A class of characters that has none of the marks in it. -/
theorem Text.isOrdinary_of_class {p : Char → Bool} (hmarks : Text.marks.any p = false) {c : Char}
    (hc : p c = true) : Text.isOrdinary c = true := by
  rw [isOrdinary, Bool.not_eq_true', Bool.eq_false_iff]
  intro hmem
  have hnone := List.any_eq_false.mp hmarks c (List.contains_iff_mem.mp hmem)
  exact hnone hc

theorem Text.isOrdinary_of_isBlank {c : Char} (hc : isBlank c = true) : isOrdinary c = true :=
  isOrdinary_of_class (p := isBlank) (by decide) hc

section Ordinary

variable {c : Char} (hc : Text.isOrdinary c = true)
include hc

theorem Text.isBrace_of_isOrdinary : Placeholder.isBrace c = false := by
  simp [isOrdinary, marks] at hc
  simp [Placeholder.isBrace, hc]

theorem Text.isQuote_of_isOrdinary : Quotation.isQuote c = false := by
  simp [isOrdinary, marks] at hc
  simp [Quotation.isQuote, hc]

/-- Behind an ordinary character, the code goes on. -/
theorem Zone.next_ordinary : Zone.code.next c = .code := by
  have hquote := Text.isQuote_of_isOrdinary hc
  simp [Text.isOrdinary, Text.marks] at hc
  simp [next, hquote, hc]

end Ordinary

/-! ## Clear texts -/

/-- Outside of comments, the text has no braces and no quotes. It begins in the zone. -/
def Clear : Zone → Text → Prop
  | _, [] => True
  | zone, c :: rest =>
    (zone ≠ .comment → Placeholder.isBrace c = false ∧ Quotation.isQuote c = false) ∧
      Clear (zone.next c) rest

variable {zone : Zone} {s t text : Text}

theorem clear_append : Clear zone (s ++ t) ↔ Clear zone s ∧ Clear (zone.behind s) t := by
  induction s generalizing zone with
  | nil => exact ⟨fun h => ⟨trivial, h⟩, fun h => h.2⟩
  | cons c s ih => simp only [List.cons_append, Clear, Zone.behind_cons, ih, and_assoc]

/-- Ordinary characters in the code do not count. -/
theorem clear_ordinary_append (hs : ∀ c ∈ s, Text.isOrdinary c = true) :
    Clear .code (s ++ t) ↔ Clear .code t := by
  induction s with
  | nil => exact Iff.rfl
  | cons c s ih =>
    obtain ⟨hc, hs⟩ := List.forall_mem_cons.mp hs
    rw [List.cons_append, Clear, Zone.next_ordinary hc, ih hs]
    exact ⟨fun h => h.2, fun h =>
      ⟨fun _ => ⟨Text.isBrace_of_isOrdinary hc, Text.isQuote_of_isOrdinary hc⟩, h⟩⟩

/-- Ordinary characters are clear wherever they stand. -/
theorem clear_of_ordinary (hs : ∀ c ∈ s, Text.isOrdinary c = true) : Clear zone s := by
  induction s generalizing zone with
  | nil => trivial
  | cons c s ih =>
    obtain ⟨hc, hs⟩ := List.forall_mem_cons.mp hs
    exact ⟨fun _ => ⟨Text.isBrace_of_isOrdinary hc, Text.isQuote_of_isOrdinary hc⟩, ih hs⟩

/-- Behind a number sign, all is clear up to the end of the line. -/
theorem clear_comment (hreturn : '\r' ∉ text)
    (h : Clear .code (text.dropWhile (· != '\n'))) : Clear .comment text := by
  induction text with
  | nil => trivial
  | cons c rest ih =>
    obtain ⟨hc, hrest⟩ := not_or.mp (List.mem_cons.not.mp hreturn)
    by_cases hfeed : c = '\n'
    · subst hfeed
      exact ⟨fun hne => absurd rfl hne, h.2⟩
    · have hnext : Zone.comment.next c = .comment := by simp [Zone.next, hfeed, Ne.symm hc]
      rw [List.dropWhile_cons_of_pos (by simpa using hfeed)] at h
      exact ⟨fun hne => absurd rfl hne, hnext.symm ▸ ih hrest h⟩

/-- A brace of a clear text stands in a comment. -/
theorem Clear.comment_of_brace {c : Char} (h : Clear zone (s ++ c :: t))
    (hc : Placeholder.isBrace c = true) : zone.behind s = .comment := by
  apply Classical.byContradiction
  intro hne
  have hplain := (clear_append.mp h).2.1 hne
  rw [hc] at hplain
  cases hplain.1

/-! ## The text that is read -/

/-- White space at the ends of a text is no comment and has no marks. -/
theorem clear_of_strip (h : Clear .code (Text.strip text)) : Clear .code text := by
  have hfront : Clear .code (text.dropWhile Text.isBlank) := by
    have hsplit := List.takeWhile_append_dropWhile
      (p := Text.isBlank) (l := (text.dropWhile Text.isBlank).reverse)
    rw [← List.reverse_inj, List.reverse_append, List.reverse_reverse] at hsplit
    rw [← hsplit]
    refine clear_append.mpr ⟨h, clear_of_ordinary fun c hc => ?_⟩
    have hblank := List.mem_takeWhile_imp (List.mem_reverse.mp hc)
    exact Text.isOrdinary_of_isBlank hblank
  rw [← List.takeWhile_append_dropWhile (p := Text.isBlank) (l := text)]
  refine (clear_ordinary_append fun c hc => ?_).mpr hfront
  exact Text.isOrdinary_of_isBlank (List.mem_takeWhile_imp hc)

/-- A caret is as ordinary as the stars that it is spelled with. -/
theorem clear_of_spellOut (h : Clear zone (Text.spellOut text)) : Clear zone text := by
  induction text generalizing zone with
  | nil => trivial
  | cons c rest ih =>
    rw [Text.spellOut, List.flatMap_cons] at h
    split at h
    case isTrue hc =>
      subst hc
      have hnext : (zone.next '*').next '*' = zone.next '^' := by cases zone <;> rfl
      exact ⟨fun _ => ⟨rfl, rfl⟩, ih (hnext ▸ h.2.2)⟩
    case isFalse => exact ⟨h.1, ih h.2⟩

/-- All forms of a line end do the same: they end a comment. -/
theorem clear_of_unifyLineEnds {afterReturn : Bool} (hzone : afterReturn = true → zone ≠ .comment)
    (h : Clear zone (Token.unifyLineEnds afterReturn text)) : Clear zone text := by
  induction text generalizing zone afterReturn with
  | nil => trivial
  | cons c rest ih =>
    rw [Token.unifyLineEnds] at h
    split at h
    case isTrue hc =>
      subst hc
      have hnext : zone.next '\r' = zone.next '\n' := by cases zone <;> rfl
      have hafter : zone.next '\n' ≠ .comment := by cases zone <;> decide
      exact ⟨fun _ => ⟨rfl, rfl⟩, hnext ▸ ih (fun _ => hafter) h.2⟩
    case isFalse =>
      split at h
      case isTrue hc =>
        obtain ⟨rfl, hreturn⟩ := hc
        have hnext : zone.next '\n' = zone := by
          cases zone with
          | code | quoted => rfl
          | comment => exact absurd rfl (hzone hreturn)
        exact ⟨fun _ => ⟨rfl, rfl⟩, hnext.symm ▸ ih (by simp) h⟩
      case isFalse => exact ⟨h.1, ih (by simp) h.2⟩

/-- No carriage return is left among the line ends. -/
theorem Token.not_mem_unifyLineEnds (afterReturn : Bool) (text : Text) :
    '\r' ∉ unifyLineEnds afterReturn text := by
  induction text generalizing afterReturn with
  | nil => exact List.not_mem_nil
  | cons c rest ih =>
    rw [unifyLineEnds]
    split
    case isTrue => simpa using ih true
    case isFalse hc =>
      split
      case isTrue => exact ih false
      case isFalse => simpa using ⟨Ne.symm hc, ih false⟩

/-- A text is clear if what is read of it is. -/
theorem clear_of_formulaSource
    (h : Clear .code (Token.unifyLineEnds false (formulaSource text))) : Clear .code text :=
  clear_of_strip (clear_of_spellOut (clear_of_unifyLineEnds (by simp) h))

end Formulary
