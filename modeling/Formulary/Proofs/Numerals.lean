/-
Formulary.Proofs.Numerals — how numerals are written and read.

An integer is written with its digits. A double is written with digits, a point with digits behind
it, and an exponent; each of these may be missing, but there is at least one digit in front of the
exponent, and a point or an exponent, without which the numeral would be an integer's.
`DoubleNumeral` is such a numeral in its parts. Both kinds are read off the head of a text as long
as no letter, digit or point follows.
-/
import Formulary.Expr.Scan
import Formulary.Expr.Basic

namespace Formulary

/-! ## Characters -/

/-- A law about ASCII characters needs to be looked up for the first code points only. -/
theorem Text.forall_ascii {p : Char → Prop} [DecidablePred p] (h : ∀ n < 128, p (Char.ofNat n))
    (c : Char) (hc : c.toNat < 128) : p c :=
  Char.ofNat_toNat c ▸ h c.toNat hc

/-- A text that consists of one class of characters holds no other character. -/
theorem Text.not_mem_of_forall {p : Char → Bool} {t : Text} (h : ∀ c ∈ t, p c = true) {c : Char}
    (hc : p c = false) : c ∉ t := by
  intro hmem
  rw [h c hmem] at hc
  cases hc

/-- That every character of a text is ASCII is looked up in the text. -/
theorem Text.toNat_lt_of_mem {t : Text} (ht : t.all (fun c => decide (c.toNat < 128)) = true)
    {c : Char} (hc : c ∈ t) : c.toNat < 128 :=
  of_decide_eq_true (List.all_eq_true.mp ht c hc)

theorem Text.toNat_lt_of_isAlphanum {c : Char} (h : c.isAlphanum) : c.toNat < 128 := by
  rcases Bool.or_eq_true_iff.mp h with h | h
  · rcases Bool.or_eq_true_iff.mp h with h | h
    · have hupper : 65 ≤ c.toNat ∧ c.toNat ≤ 90 := of_decide_eq_true h
      omega
    · have hlower := Bool.and_eq_true_iff.mp h
      have hlast : c.toNat ≤ 122 := of_decide_eq_true hlower.2
      omega
  · have hdigit := Bool.and_eq_true_iff.mp h
    have hlast : c.toNat ≤ 57 := of_decide_eq_true hdigit.2
    omega

/-! ## Numerals -/

namespace Number

theorem natText_ne_nil (n : Nat) : natText n ≠ [] :=
  Nat.toDigits_ne_nil

theorem isDigit_of_mem_natText {n : Nat} {c : Char} (h : c ∈ natText n) : c.isDigit :=
  Nat.isDigit_of_mem_toDigits (by decide) (by decide) h

/-- The digits of a number give the number back. -/
theorem digitsValue_natText (n : Nat) : digitsValue (natText n) = n :=
  Nat.ofDigitChars_eq_foldl.symm.trans Nat.ofDigitChars_ten_toDigits

/-- Only zero is written with a leading zero. -/
theorem head?_natText_ne {n : Nat} (hn : n ≠ 0) : (natText n).head? ≠ some '0' := by
  induction n using Nat.strongRecOn with
  | _ n ih =>
    rw [natText, Nat.toDigits_eq_if (by decide)]
    split
    case isTrue hlt =>
      exact fun h => hn (Nat.digitChar_eq_zero.mp (Option.some.inj h))
    case isFalse hge =>
      have hrest : n / 10 ≠ 0 := by omega
      obtain ⟨c, ds, hds⟩ := List.exists_cons_of_ne_nil (natText_ne_nil (n / 10))
      have hhead := ih (n / 10) (by omega) hrest
      rw [hds] at hhead
      rw [show Nat.toDigits 10 (n / 10) = c :: ds from hds]
      exact hhead

end Number

namespace Numeral

theorem isWordPart_of_isDigit {c : Char} (h : c.isDigit) : isWordPart c := by
  simp [isWordPart, Char.isAlphanum, h]

/-- What is no part of a word goes on with no run of digits. -/
theorem not_isDigit_of_isWordPart {c : Char} (h : isWordPart c = false) :
    c.isDigit = false ∧ c ≠ '_' := by
  constructor
  · cases hdigit : c.isDigit with
    | false => rfl
    | true => rw [isWordPart_of_isDigit hdigit] at h; cases h
  · rintro rfl
    cases h

/-- A run of digits ends before a character that cannot belong to it. -/
theorem digitRun?_append {digits rest : Text} (hdigits : ∀ c ∈ digits, c.isDigit)
    (hrest : ∀ c ∈ rest.head?, c.isDigit = false ∧ c ≠ '_') :
    digitRun? Char.isDigit (digits ++ rest) = some (digits, digits.length, rest) := by
  induction digits with
  | nil =>
    cases rest with
    | nil => rfl
    | cons c behind =>
      obtain ⟨hdigit, hscore⟩ := hrest c rfl
      cases behind <;> simp [digitRun?, hscore, hdigit]
  | cons c digits ih =>
    obtain ⟨hc, hdigits⟩ := List.forall_mem_cons.mp hdigits
    have hscore : c ≠ '_' := by
      rintro rfl
      cases hc
    have hrun := ih hdigits
    rw [List.cons_append]
    generalize digits ++ rest = behind at hrun
    cases behind with
    | nil =>
      obtain ⟨rfl, -, rfl⟩ : [] = digits ∧ 0 = digits.length ∧ [] = rest := by
        simpa [digitRun?] using hrun
      simp [digitRun?, hscore, hc]
    | cons d behind => simp [digitRun?, hscore, hc, hrun]

/-- The integer that the digits of a number stand for is that number. -/
theorem integer?_natText {n : Nat} (hn : (Number.natText n).length ≤ maxDigits) :
    integer? (Number.natText n) = some (.int n) := by
  unfold integer?
  by_cases hzero : n = 0
  · subst hzero
    rfl
  · have hhead := Number.head?_natText_ne hzero
    have hall : (Number.natText n).all (· == '0') = false := by
      obtain ⟨c, ds, hds⟩ := List.exists_cons_of_ne_nil (Number.natText_ne_nil n)
      rw [hds] at hhead ⊢
      simp only [List.head?_cons, ne_eq, Option.some.injEq] at hhead
      simp [hhead]
    rw [hall, Number.digitsValue_natText]
    simp [hhead, Nat.not_lt.mpr hn]

/-- A numeral ends before this text: no letter, digit or point goes on with it. -/
def Ends (rest : Text) : Prop :=
  ∀ c ∈ rest.head?, isWordPart c = false ∧ c ≠ '.'

/-- A decimal integer is read up to a character that can belong neither to it nor to a fraction. -/
theorem decimal?_natText {n : Nat} (hn : (Number.natText n).length ≤ maxDigits) {rest : Text}
    (hrest : Ends rest) :
    decimal? (Number.natText n ++ rest) = some (.int n, (Number.natText n).length) := by
  have hdigits : ∀ c ∈ Number.natText n, c.isDigit := fun c => Number.isDigit_of_mem_natText
  have hrun := digitRun?_append hdigits fun c hc => not_isDigit_of_isWordPart (hrest c hc).1
  have hpoint : ((Number.natText n ++ rest).head? == some '.') = false := by
    obtain ⟨c, ds, hds⟩ := List.exists_cons_of_ne_nil (Number.natText_ne_nil n)
    have hc := hdigits c (by rw [hds]; exact List.mem_cons_self)
    rw [hds, List.cons_append, List.head?_cons, beq_eq_false_iff_ne]
    rintro ⟨⟩
    cases hc
  rw [decimal?, hpoint]
  simp only [Bool.false_eq_true, if_false]
  rw [hrun]
  cases rest with
  | nil => simp [fraction?, exponent?, integer?_natText hn, bind, Option.bind]
  | cons c behind =>
    obtain ⟨hword, hpoint⟩ := hrest c rfl
    -- A letter would have to be a part of the numeral.
    have hexponent : ∀ d, isWordPart d = true → c ≠ d := by
      rintro d hd rfl
      rw [hword] at hd
      cases hd
    simp [fraction?, exponent?, mayEndBefore, integer?_natText hn, bind, Option.bind, hpoint, hword,
      hexponent 'e' (by decide), hexponent 'E' (by decide), hexponent 'j' (by decide),
      hexponent 'J' (by decide)]

/-- Only six letters announce a base. -/
theorem baseOf?_eq_none {c : Char} (h : c ∉ "xXoObB".toList) : baseOf? c = none := by
  simp at h
  simp [baseOf?, h]

/-- **A decimal integer is read back.** -/
theorem read?_natText {n : Nat} (hn : (Number.natText n).length ≤ maxDigits) {rest : Text}
    (hrest : Ends rest) :
    read? (Number.natText n ++ rest) = some (.int n, (Number.natText n).length) := by
  have hdecimal := decimal?_natText hn hrest
  rw [read?.eq_def]
  split
  case h_1 mark behind htext =>
    -- A leading zero is the whole numeral, so the mark is what stands behind it.
    have hzero : n = 0 := by
      apply Classical.byContradiction
      intro hne
      apply Number.head?_natText_ne hne
      obtain ⟨c, ds, hds⟩ := List.exists_cons_of_ne_nil (Number.natText_ne_nil n)
      rw [hds] at htext ⊢
      exact congrArg some (List.cons.inj htext).1
    subst hzero
    obtain rfl : rest = mark :: behind := (List.cons.inj htext).2
    have hword := (hrest mark rfl).1
    have hmark : baseOf? mark = none := by
      apply baseOf?_eq_none
      intro hmem
      have hmarks : "xXoObB".toList.all isWordPart = true := by decide
      rw [List.all_eq_true.mp hmarks mark hmem] at hword
      cases hword
    rw [hmark]
    exact hdecimal
  case h_2 => exact hdecimal

end Numeral

/-! ## Numerals of doubles -/

/-- An exponent as it is written: a mark, perhaps a sign, and digits. -/
structure Exponent where
  mark : Char
  sign : Option UnaryOp
  digits : Text
  isMark : mark = 'e' ∨ mark = 'E'
  isDigit : ∀ c ∈ digits, c.isDigit = true
  digits_ne_nil : digits ≠ []

namespace Exponent

/-- The text of a sign. -/
def signText : Option UnaryOp → Text
  | none => []
  | some .plus => ['+']
  | some .minus => ['-']

/-- The text of an exponent. -/
def text (e : Exponent) : Text :=
  e.mark :: signText e.sign ++ e.digits

/-- The power of ten that an exponent stands for. -/
def value (e : Exponent) : Int :=
  if e.sign = some .minus then -(Number.digitsValue e.digits) else Number.digitsValue e.digits

end Exponent

/-- A numeral of a double: digits in front of the point, digits behind it if there is a point, and
an exponent if there is one. -/
structure DoubleNumeral where
  whole : Text
  fraction : Option Text
  exponent : Option Exponent
  isDigit_whole : ∀ c ∈ whole, c.isDigit = true
  isDigit_fraction : ∀ digits ∈ fraction, ∀ c ∈ digits, c.isDigit = true
  digits_ne_nil : whole ++ fraction.getD [] ≠ []
  marked : fraction ≠ none ∨ exponent ≠ none

namespace DoubleNumeral

/-- The text of a fraction. -/
def fractionText : Option Text → Text
  | none => []
  | some digits => '.' :: digits

/-- The text of an exponent that may be missing. -/
def exponentText : Option Exponent → Text
  | none => []
  | some e => e.text

/-- The text of a numeral. -/
def text (d : DoubleNumeral) : Text :=
  d.whole ++ fractionText d.fraction ++ exponentText d.exponent

/-- The double that a numeral stands for. -/
def value (d : DoubleNumeral) : Float :=
  Number.ofParts d.whole (d.fraction.getD []) ((d.exponent.map Exponent.value).getD 0)

end DoubleNumeral

namespace Numeral

variable {rest : Text}

/-- An exponent is read up to the end of the numeral. -/
theorem exponent?_text (e : Exponent) (hrest : Ends rest) :
    exponent? (e.text ++ rest) = some (some e.value, e.text.length, rest) := by
  have hrun := digitRun?_append e.isDigit fun c hc => not_isDigit_of_isWordPart (hrest c hc).1
  obtain ⟨mark, sign, digits, hmark, hdigits, hne⟩ := e
  obtain ⟨d, ds, rfl⟩ := List.exists_cons_of_ne_nil hne
  have hd : d.isDigit = true := hdigits d List.mem_cons_self
  have hplus : d ≠ '+' := by rintro rfl; cases hd
  have hminus : d ≠ '-' := by rintro rfl; cases hd
  have hmark : ¬ (mark ≠ 'e' ∧ mark ≠ 'E') := fun h => hmark.elim h.1 h.2
  simp only [List.cons_append] at hrun
  -- Behind the mark a sign is looked for first, and a digit is none.
  cases sign with
  | none =>
    simp [exponent?, Exponent.text, Exponent.signText, Exponent.value, hmark, hplus, hminus, hd,
      hrun]
  | some op =>
    cases op <;>
      simp [exponent?, Exponent.text, Exponent.signText, Exponent.value, hmark, hd, hrun]

/-- Without an exponent, none is read. -/
theorem exponent?_of_ends (hrest : Ends rest) : exponent? rest = some (none, 0, rest) := by
  cases rest with
  | nil => rfl
  | cons c behind =>
    have hword := (hrest c rfl).1
    have hmark : c ≠ 'e' ∧ c ≠ 'E' := by
      constructor <;> rintro rfl <;> cases hword
    simp [exponent?, hmark]

open DoubleNumeral (fractionText exponentText)

theorem exponent?_exponentText (exponent : Option Exponent) (hrest : Ends rest) :
    exponent? (exponentText exponent ++ rest)
      = some (exponent.map Exponent.value, (exponentText exponent).length, rest) := by
  cases exponent with
  | none => exact exponent?_of_ends hrest
  | some e => exact exponent?_text e hrest

/-- What stands behind the digits of a double, an exponent or the end of the numeral, goes on with
none of them. -/
theorem head_exponentText (exponent : Option Exponent) (hrest : Ends rest) :
    ∀ c ∈ (exponentText exponent ++ rest).head?, (c.isDigit = false ∧ c ≠ '_') ∧ c ≠ '.' := by
  cases exponent with
  | none => exact fun c hc => ⟨not_isDigit_of_isWordPart (hrest c hc).1, (hrest c hc).2⟩
  | some e =>
    rintro _ ⟨⟩
    rcases e.isMark with h | h <;> rw [h] <;> decide

/-- A fraction is read up to the exponent or the end of the numeral. -/
theorem fraction?_fractionText {fraction : Option Text}
    (hdigits : ∀ digits ∈ fraction, ∀ c ∈ digits, c.isDigit = true)
    (hrest : ∀ c ∈ rest.head?, (c.isDigit = false ∧ c ≠ '_') ∧ c ≠ '.') :
    fraction? (fractionText fraction ++ rest)
      = some (fraction, (fractionText fraction).length, rest) := by
  cases fraction with
  | none =>
    cases rest with
    | nil => rfl
    | cons c behind =>
      have hpoint := (hrest c rfl).2
      simp [fractionText, fraction?, hpoint]
  | some digits =>
    have hrun := digitRun?_append (hdigits digits rfl) fun c hc => (hrest c hc).1
    cases digits with
    | nil =>
      cases rest with
      | nil => rfl
      | cons c behind =>
        have hdigit := (hrest c rfl).1.1
        simp [fractionText, fraction?, hdigit]
    | cons d ds =>
      have hd : d.isDigit = true := hdigits _ rfl d List.mem_cons_self
      simp only [List.cons_append] at hrun
      simp [fractionText, fraction?, hd, hrun]

/-- The digits in front of the point are read up to the point or the exponent. Without such digits
the numeral begins with the point. -/
theorem whole_text (d : DoubleNumeral) (hrest : Ends rest) :
    (if (d.text ++ rest).head? == some '.' then some ([], 0, d.text ++ rest)
      else digitRun? Char.isDigit (d.text ++ rest))
      = some (d.whole, d.whole.length,
          fractionText d.fraction ++ (exponentText d.exponent ++ rest)) := by
  obtain ⟨whole, fraction, exponent, hwhole, hfraction, hne, hmarked⟩ := d
  have htext : DoubleNumeral.text ⟨whole, fraction, exponent, hwhole, hfraction, hne, hmarked⟩
      ++ rest = whole ++ (fractionText fraction ++ (exponentText exponent ++ rest)) := by
    simp [DoubleNumeral.text]
  rw [htext]
  cases whole with
  | nil =>
    cases fraction with
    | none => exact absurd rfl hne
    | some digits => rfl
  | cons c cs =>
    have hpoint : c ≠ '.' := by
      rintro rfl
      cases hwhole _ List.mem_cons_self
    have hbehind : ∀ c ∈ (fractionText fraction ++ (exponentText exponent ++ rest)).head?,
        c.isDigit = false ∧ c ≠ '_' := by
      cases fraction with
      | none => exact fun c hc => (head_exponentText exponent hrest c hc).1
      | some digits => rintro _ ⟨⟩; decide
    have hrun := digitRun?_append hwhole hbehind
    simp only [List.cons_append] at hrun
    simp [hpoint, hrun]

/-- A numeral of a double is read as a decimal numeral. -/
theorem decimal?_text (d : DoubleNumeral) (hrest : Ends rest) :
    decimal? (d.text ++ rest) = some (.float d.value, d.text.length) := by
  have hfraction := fraction?_fractionText d.isDigit_fraction (head_exponentText d.exponent hrest)
  have hexponent := exponent?_exponentText d.exponent hrest
  have hdouble : (d.fraction.isSome || (d.exponent.map Exponent.value).isSome) = true := by
    rcases d.marked with h | h
    · simp [Option.isSome_iff_ne_none.mpr h]
    · simp [Option.isSome_iff_ne_none.mpr h]
  have hlength : d.text.length
      = d.whole.length + (fractionText d.fraction).length + (exponentText d.exponent).length := by
    simp [DoubleNumeral.text, Nat.add_assoc]
  have hwhole := whole_text d hrest
  rw [decimal?]
  -- Whether the numeral begins with its point only matters for the digits in front of it.
  cases hpoint : (d.text ++ rest).head? == some '.' with
  | true | false =>
    simp only [hpoint, Bool.false_eq_true, if_true, if_false] at hwhole ⊢
    rw [hwhole]
    simp only [bind, Option.bind, hfraction, hexponent, hdouble, if_true, ← hlength]
    cases rest with
    | nil => rfl
    | cons c behind =>
      have hword := (hrest c rfl).1
      have hj : ¬ (c = 'j' ∨ c = 'J') := by
        rintro (rfl | rfl) <;> cases hword
      have hends : mayEndBefore (c :: behind) = true := by simp [mayEndBefore, hword]
      simp only [hj, hends, if_false, Bool.not_true, Bool.false_eq_true]
      rfl

/-! ## Characters of numerals -/

/-- A character of a numeral is a digit, the point, a mark or a sign. -/
def isPart (c : Char) : Bool :=
  c.isDigit || ".eE+-".toList.contains c

theorem isPart_of_mem_text {d : DoubleNumeral} {c : Char} (h : c ∈ d.text) : isPart c = true := by
  have hdigit : c.isDigit = true → isPart c = true := fun h => by simp [isPart, h]
  simp only [DoubleNumeral.text, List.mem_append] at h
  rcases h with (h | h) | h
  · exact hdigit (d.isDigit_whole c h)
  · cases hfraction : d.fraction with
    | none => rw [hfraction] at h; cases h
    | some digits =>
      rw [hfraction] at h
      rcases List.mem_cons.mp h with rfl | h
      · rfl
      · exact hdigit (d.isDigit_fraction digits hfraction c h)
  · cases hexponent : d.exponent with
    | none => rw [hexponent] at h; cases h
    | some e =>
      rw [hexponent] at h
      simp only [exponentText, Exponent.text, List.cons_append, List.mem_cons,
        List.mem_append] at h
      rcases h with rfl | h | h
      · rcases e.isMark with h | h <;> rw [h] <;> rfl
      · cases hsign : e.sign with
        | none => rw [hsign] at h; cases h
        | some op => rw [hsign] at h; cases op <;> (obtain rfl := List.mem_singleton.mp h; rfl)
      · exact hdigit (e.isDigit c h)

theorem two_le_length_text (d : DoubleNumeral) : 2 ≤ d.text.length := by
  have hdigits := List.length_pos_iff.mpr d.digits_ne_nil
  simp only [DoubleNumeral.text, List.length_append] at hdigits ⊢
  rcases d.marked with h | h
  · obtain ⟨digits, hfraction⟩ := Option.ne_none_iff_exists'.mp h
    simp only [hfraction, fractionText, Option.getD_some, List.length_cons] at hdigits ⊢
    omega
  · obtain ⟨e, hexponent⟩ := Option.ne_none_iff_exists'.mp h
    cases hfraction : d.fraction with
    | none =>
      simp only [hfraction, hexponent, exponentText, Exponent.text, Option.getD_none,
        List.length_append, List.length_cons, List.length_nil] at hdigits ⊢
      omega
    | some digits =>
      simp only [hfraction, fractionText, Option.getD_some, List.length_cons] at hdigits ⊢
      omega

/-- A numeral begins with a digit, or with a point and a digit. -/
theorem exists_head_text (d : DoubleNumeral) :
    ∃ c tail, d.text = c :: tail ∧
      (c.isDigit = true ∨ c = '.' ∧ tail.head?.any Char.isDigit = true) := by
  obtain ⟨whole, fraction, exponent, hwhole, hfraction, hne, hmarked⟩ := d
  cases whole with
  | cons c cs => exact ⟨c, _, rfl, .inl (hwhole c List.mem_cons_self)⟩
  | nil =>
    cases fraction with
    | none => exact absurd rfl hne
    | some digits =>
      obtain ⟨c, cs, rfl⟩ := List.exists_cons_of_ne_nil hne
      exact ⟨'.', _, rfl, .inr ⟨rfl, hfraction _ rfl c List.mem_cons_self⟩⟩

/-- **A numeral of a double is read back**: what stands behind a leading zero announces no base. -/
theorem read?_text (d : DoubleNumeral) (hrest : Ends rest) :
    read? (d.text ++ rest) = some (.float d.value, d.text.length) := by
  rw [read?.eq_def]
  split
  case h_1 mark behind htext =>
    have hmem : mark ∈ d.text := by
      match hd : d.text, two_le_length_text d with
      | first :: second :: tail, _ =>
        rw [hd] at htext
        obtain rfl : second = mark := (List.cons.inj (List.cons.inj htext).2).1
        exact List.mem_cons_of_mem _ List.mem_cons_self
    have hmark : baseOf? mark = none := by
      apply baseOf?_eq_none
      intro hbase
      have hmarks : "xXoObB".toList.all (fun c => !isPart c) = true := by decide
      have hnot := List.all_eq_true.mp hmarks mark hbase
      rw [isPart_of_mem_text hmem] at hnot
      cases hnot
    rw [hmark]
    exact decimal?_text d hrest
  case h_2 => exact decimal?_text d hrest

end Numeral

end Formulary
