/-
Formulary.Proofs.Reading — how the single tokens of a formula are read.

A numeral, a name and a symbol are read off the head of a text, whatever stands behind them, as long
as the next character cannot go on with the token. Which characters these are is different for each
kind: behind a numeral there may be no letter, digit or point, behind a name no letter, digit or
quote, behind a symbol nothing that makes a longer one.
-/
import Formulary.Expr.Function
import Formulary.Proofs.Numerals

namespace Formulary

/-! ## Names -/

/-- A word that begins with a letter, goes on with letters and digits, and is not reserved. -/
def Text.isPlainWord (word : Text) : Bool :=
  word.head?.any Char.isAlpha && word.all Char.isAlphanum && (Keyword.ofWord? word).isNone

namespace Token

/-- No quotation begins with letters and digits that no quote follows. -/
theorem style?_append {word rest : Text} (hword : ∀ c ∈ word, c.isAlphanum)
    (hrest : ∀ c ∈ rest.head?, c.isAlpha = false ∧ Quotation.isQuote c = false) :
    Quotation.style? (word ++ rest) = none := by
  have hbehind : ∀ c ∈ ((word ++ rest).dropWhile Char.isAlpha).head?,
      Quotation.isQuote c = false := by
    induction word with
    | nil =>
      cases rest with
      | nil => exact nofun
      | cons d behind =>
        obtain ⟨halpha, hquote⟩ := hrest d rfl
        rw [List.nil_append, List.dropWhile_cons_of_neg (by simp [halpha])]
        rintro _ ⟨⟩
        exact hquote
    | cons d word ih =>
      obtain ⟨hd, hword⟩ := List.forall_mem_cons.mp hword
      rw [List.cons_append]
      by_cases halpha : d.isAlpha = true
      · rw [List.dropWhile_cons_of_pos halpha]
        exact ih hword
      · rw [List.dropWhile_cons_of_neg halpha]
        rintro _ ⟨⟩
        exact Text.forall_ascii (p := fun c => c.isAlphanum = true → Quotation.isQuote c = false)
          (by decide) d (Text.toNat_lt_of_isAlphanum hd) hd
  unfold Quotation.style?
  generalize (word ++ rest).dropWhile Char.isAlpha = behind at hbehind
  cases behind with
  | nil => rfl
  | cons c behind => simp [hbehind c rfl]

/-- A plain word that is not reserved is a name as it stands. -/
theorem ofWord?_plain {word : Text} (hword : word.isPlainWord) :
    ofWord? word = some (.name word) := by
  simp only [Text.isPlainWord, Bool.and_eq_true, Option.isNone_iff_eq_none, List.all_eq_true]
    at hword
  obtain ⟨⟨hhead, hall⟩, hkeyword⟩ := hword
  have hascii : ∀ c ∈ word, c.toNat < 0x80 := by
    intro c hc
    exact Text.toNat_lt_of_isAlphanum (hall c hc)
  have hnormal : Text.normalForm word = word := by
    rw [Text.normalForm, if_pos]
    simpa using hascii
  have hname : Text.isName word = true := by
    cases word with
    | nil => cases hhead
    | cons c rest =>
      obtain ⟨hc, hrest⟩ := List.forall_mem_cons.mp hascii
      have hparts : ∀ d ∈ rest, Text.isNamePart d = true := by
        intro d hd
        have halnum := hall d (List.mem_cons_of_mem c hd)
        rw [Char.isAlphanum, Bool.or_eq_true] at halnum
        rw [Text.isNamePart, if_pos (hrest d hd), Text.isAsciiNameStart]
        rcases halnum with h | h <;> simp [h]
      have hstart : c.isAlpha = true := by simpa using hhead
      rw [Text.isName, Text.isNameStart, if_pos hc, Text.isAsciiNameStart]
      simpa [hstart] using hparts
  rw [ofWord?, hkeyword, hnormal, if_pos hname]

end Token

/-! ## Tokens -/

/-- The names that formulas use: those of the constants and of the functions. -/
def Text.isKnownName (id : Text) : Bool :=
  (constant? id).isSome || (Function.ofName? id).isSome

/-- All names that formulas use are plain words. -/
theorem Text.isPlainWord_of_isKnownName {id : Text} (h : id.isKnownName) : id.isPlainWord := by
  have hconstants : ∀ name ∈ constants.map Prod.fst, isPlainWord name.toList = true := by decide
  have hfunctions : ∀ f : Function, isPlainWord f.name.toList = true := by
    intro f
    cases f <;> decide
  rw [isKnownName, Bool.or_eq_true] at h
  rcases h with h | h
  · simp only [constant?, Option.isSome_map, List.find?_isSome, beq_iff_eq] at h
    obtain ⟨entry, hentry, rfl⟩ := h
    exact hconstants entry.1 (List.mem_map_of_mem hentry)
  · simp only [Function.ofName?, List.find?_isSome, beq_iff_eq] at h
    obtain ⟨f, -, rfl⟩ := h
    exact hfunctions f

namespace Token

/-- The spellings of the tokens that formulas consist of, doubles apart. -/
def spellings : Token → List Text
  | .number (.int n) => [Number.natText n]
  | .name id => if id.isKnownName then [id] else []
  | .symbol .plus => [['+']]
  | .symbol .minus => [['-']]
  | .symbol .star => [['*']]
  | .symbol .slash => [['/']]
  | .symbol .doubleSlash => [['/', '/']]
  | .symbol .percent => [['%']]
  | .symbol .doubleStar => [['*', '*'], ['^']]
  | .symbol .openParen => [['(']]
  | .symbol .closeParen => [[')']]
  | .symbol .comma => [[',']]
  | _ => []

/-- How the tokens of formulas are spelled: integers, names and symbols as listed, and doubles as
any numeral that stands for them. -/
inductive IsSpelled : Token → Text → Prop
  | listed {t : Token} {word : Text} : word ∈ t.spellings → IsSpelled t word
  | double (d : DoubleNumeral) : IsSpelled (.number (.float d.value)) d.text

/-- Whether the token is no integer with more digits than an integer may have. -/
def isShort : Token → Bool
  | .number (.int n) => (Number.natText n).length ≤ Numeral.maxDigits
  | _ => true

/-- Whether a character right behind the token leaves it as it is. -/
def mayEndBefore : Token → Char → Bool
  | .number _, c | .name _, c => !Numeral.isWordPart c && c != '.' && !Quotation.isQuote c
  | .symbol .openParen, _ | .symbol .closeParen, _ | .symbol .comma, _ => true
  | _, c => c != '=' && c != '>' && c != '*' && c != '/'

theorem isAlpha_of_isWordPart {c : Char} (h : Numeral.isWordPart c = false) :
    c.isAlpha = false := by
  simp only [Numeral.isWordPart, Char.isAlphanum, Bool.or_eq_false_iff] at h
  exact h.1.1.1

/-- A plain word is read as the name that it is. -/
theorem read?_plain {word rest : Text} (hword : word.isPlainWord)
    (hrest : ∀ c ∈ rest.head?, (Token.name word).mayEndBefore c) :
    read? (word ++ rest) = some (.name word, word.length) := by
  have htoken := ofWord?_plain hword
  simp only [Text.isPlainWord, Bool.and_eq_true, List.all_eq_true] at hword
  obtain ⟨⟨hhead, hall⟩, -⟩ := hword
  simp only [mayEndBefore, Bool.and_eq_true, Bool.not_eq_true', bne_iff_ne] at hrest
  have hstyle : Quotation.style? (word ++ rest) = none := by
    apply style?_append hall
    intro c hc
    exact ⟨isAlpha_of_isWordPart (hrest c hc).1.1, (hrest c hc).2⟩
  have htake : (word ++ rest).takeWhile Numeral.isWordPart = word := by
    have hparts : ∀ c ∈ word, Numeral.isWordPart c = true := by
      intro c hc
      simp [Numeral.isWordPart, hall c hc]
    rw [List.takeWhile_append_of_pos hparts]
    cases rest with
    | nil => exact List.append_nil word
    | cons c behind =>
      rw [List.takeWhile_cons_of_neg (by simp [(hrest c rfl).1.1])]
      exact List.append_nil word
  cases word with
  | nil => cases hhead
  | cons c word =>
    have hstart : isWordStart c = true := by
      simp only [List.head?_cons, Option.any_some] at hhead
      simp [isWordStart, Text.isAsciiNameStart, hhead]
    rw [List.cons_append] at hstyle htake ⊢
    simp only [read?, hstyle, hstart, if_true, htake, htoken, Option.map_some]

/-- What begins with a digit, or with a point and a digit, is read as the numeral that it is. -/
theorem read?_number {value : Literal} {c : Char} {tail rest : Text} {length : Nat}
    (hc : c.isDigit = true ∨ c = '.' ∧ tail.head?.any Char.isDigit = true)
    (hnumeral : Numeral.read? (c :: tail ++ rest) = some (value, length)) :
    read? (c :: tail ++ rest) = some (.number value, length) := by
  have hclass : c.isAlpha = false ∧ Quotation.isQuote c = false ∧ isWordStart c = false := by
    rcases hc with hdigit | ⟨rfl, -⟩
    · exact Text.forall_ascii (p := fun c => c.isDigit = true →
          c.isAlpha = false ∧ Quotation.isQuote c = false ∧ isWordStart c = false) (by decide) c
        (Text.toNat_lt_of_isAlphanum (by simp [Char.isAlphanum, hdigit])) hdigit
    · decide
  have hstyle : Quotation.style? ([] ++ (c :: tail ++ rest)) = none :=
    style?_append (fun _ h => absurd h List.not_mem_nil)
      (by rintro _ ⟨⟩; exact ⟨hclass.1, hclass.2.1⟩)
  have hbegins : (c.isDigit || (c == '.' && (tail ++ rest).head?.any Char.isDigit)) = true := by
    rcases hc with hdigit | ⟨rfl, hbehind⟩
    · rw [hdigit, Bool.true_or]
    · cases tail with
      | nil => cases hbehind
      | cons d tail => simpa using hbehind
  rw [List.nil_append] at hstyle
  rw [List.cons_append] at hstyle hnumeral ⊢
  simp only [read?, hstyle, hclass.2.2, Bool.false_eq_true, if_false, hbegins, if_true, hnumeral,
    Option.map_some]

/-- No character that may stand behind a number goes on with its numeral. -/
theorem ends_of_mayEndBefore {value : Literal} {rest : Text}
    (hrest : ∀ c ∈ rest.head?, (Token.number value).mayEndBefore c) : Numeral.Ends rest := by
  simp only [mayEndBefore, Bool.and_eq_true, Bool.not_eq_true', bne_iff_ne] at hrest
  exact fun c hc => (hrest c hc).1

/-- A numeral is read as the number that it stands for. -/
theorem read?_numeral {n : Nat} (hn : (Number.natText n).length ≤ Numeral.maxDigits) {rest : Text}
    (hrest : ∀ c ∈ rest.head?, (Token.number (.int n)).mayEndBefore c) :
    read? (Number.natText n ++ rest) = some (.number (.int n), (Number.natText n).length) := by
  have hnumeral := Numeral.read?_natText hn (ends_of_mayEndBefore hrest)
  obtain ⟨c, ds, hds⟩ := List.exists_cons_of_ne_nil (Number.natText_ne_nil n)
  have hmem : c ∈ Number.natText n := by
    rw [hds]
    exact List.mem_cons_self
  have hc : c.isDigit = true := Number.isDigit_of_mem_natText hmem
  rw [hds] at hnumeral ⊢
  exact read?_number (.inl hc) hnumeral

/-- A numeral of a double is read as the double that it stands for. -/
theorem read?_double (d : DoubleNumeral) {rest : Text}
    (hrest : ∀ c ∈ rest.head?, (Token.number (.float d.value)).mayEndBefore c) :
    read? (d.text ++ rest) = some (.number (.float d.value), d.text.length) := by
  have hnumeral := Numeral.read?_text d (ends_of_mayEndBefore hrest)
  obtain ⟨c, tail, htext, hc⟩ := Numeral.exists_head_text d
  rw [htext] at hnumeral ⊢
  exact read?_number hc hnumeral

/-- The spelling of a symbol is read as the longest symbol at its head, unless what stands behind
makes a longer one. -/
theorem symbolRead?_spelling {mark : Symbol} {word rest : Text}
    (hword : word ∈ (Token.symbol mark).spellings) (hcaret : word ≠ ['^'])
    (hrest : ∀ c ∈ rest.head?, (Token.symbol mark).mayEndBefore c) :
    Symbol.read? (word ++ rest) = some (mark, word.length) := by
  cases mark with
  | openParen | closeParen | comma =>
    obtain rfl := List.mem_singleton.mp hword
    rfl
  | plus | minus | star | slash | doubleSlash | percent | doubleStar =>
    simp only [spellings, List.mem_cons, hcaret, List.not_mem_nil, or_false] at hword
    subst hword
    simp only [List.cons_append, List.nil_append]
    rw [Symbol.read?]
    · rfl
    -- What would make a longer symbol may not stand behind this one.
    all_goals
      rintro behind rfl
      exact absurd (hrest _ rfl) (by decide)
  | _ => exact absurd hword List.not_mem_nil

/-- A symbol is read when nothing behind it makes it a longer one. -/
theorem read?_symbol {mark : Symbol} {word rest : Text}
    (hword : word ∈ (Token.symbol mark).spellings) (hcaret : word ≠ ['^'])
    (hrest : ∀ c ∈ rest.head?, (Token.symbol mark).mayEndBefore c) :
    read? (word ++ rest) = some (.symbol mark, word.length) := by
  have hread := symbolRead?_spelling hword hcaret hrest
  obtain ⟨c, word, rfl, hc⟩ : ∃ c tail, word = c :: tail ∧ c ∈ "+-*/%(),".toList := by
    cases mark with
    | plus | minus | star | slash | doubleSlash | percent | doubleStar | openParen | closeParen
    | comma =>
      simp only [spellings, List.mem_cons, hcaret, List.not_mem_nil, or_false] at hword
      subst hword
      exact ⟨_, _, rfl, by decide⟩
    | _ => exact absurd hword List.not_mem_nil
  have hclass : "+-*/%(),".toList.all (fun c => !c.isAlpha && !Quotation.isQuote c &&
      !isWordStart c && !c.isDigit && !(c == '.')) = true := by decide
  have hnone := List.all_eq_true.mp hclass c hc
  simp only [Bool.and_eq_true, Bool.not_eq_true'] at hnone
  obtain ⟨⟨⟨⟨halpha, hquote⟩, hstart⟩, hdigit⟩, hpoint⟩ := hnone
  have hstyle : Quotation.style? ([] ++ (c :: (word ++ rest))) = none :=
    style?_append nofun (by rintro _ ⟨⟩; exact ⟨halpha, hquote⟩)
  rw [List.nil_append] at hstyle
  rw [List.cons_append] at hread ⊢
  simp only [read?, hstyle, hstart, hdigit, hpoint, Bool.false_and, Bool.or_self,
    Bool.false_eq_true, if_false, hread, Option.map_some]

theorem read?_listed {t : Token} {word rest : Text} (hword : word ∈ t.spellings)
    (hcaret : word ≠ ['^']) (hshort : t.isShort) (hrest : ∀ c ∈ rest.head?, t.mayEndBefore c) :
    read? (word ++ rest) = some (t, word.length) := by
  cases t with
  | number value =>
    cases value with
    | int n =>
      obtain rfl := List.mem_singleton.mp hword
      exact read?_numeral (of_decide_eq_true hshort) hrest
    | _ => exact absurd hword List.not_mem_nil
  | name id =>
    rw [spellings] at hword
    split at hword
    case isTrue hknown =>
      obtain rfl := List.mem_singleton.mp hword
      exact read?_plain (Text.isPlainWord_of_isKnownName hknown) hrest
    case isFalse => exact absurd hword List.not_mem_nil
  | symbol mark => exact read?_symbol hword hcaret hrest
  | keyword | quotation | lineEnd => exact absurd hword List.not_mem_nil

/-- **Every token of a formula is read back** from each of its spellings, up to a character that
cannot go on with it. -/
theorem read?_spelling {t : Token} {word rest : Text} (hword : t.IsSpelled word)
    (hcaret : word ≠ ['^']) (hshort : t.isShort) (hrest : ∀ c ∈ rest.head?, t.mayEndBefore c) :
    read? (word ++ rest) = some (t, word.length) := by
  cases hword with
  | listed hword => exact read?_listed hword hcaret hshort hrest
  | double d => exact read?_double d hrest

end Token

end Formulary
