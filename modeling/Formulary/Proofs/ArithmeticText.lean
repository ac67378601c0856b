/-
Formulary.Proofs.ArithmeticText — a text with a value is clear outside of its comments.

The tokens of arithmetic are spelled with ordinary characters: numerals and names with letters,
digits, points and signs, the symbols with themselves. The scan steps over a text token by token,
over blanks one at a time, and over comments as a whole. So a text whose tokens are all arithmetic
has its braces and quotes in comments, and with the law that arithmetic is read from such tokens
only, this holds of every text that has a value.
-/
import Formulary.Proofs.Arithmetic
import Formulary.Proofs.Comments

namespace Formulary

/-! ## Ordinary characters at the head of a text -/

/-- Between the beginning of a text and a place behind it there are so many characters, all of them
ordinary. -/
def StepsOver (text : Text) (n : Nat) (behind : Text) : Prop :=
  ∃ run, text = run ++ behind ∧ run.length = n ∧ ∀ c ∈ run, Text.isOrdinary c = true

namespace StepsOver

variable {text behind rest : Text} {c : Char} {m n : Nat}

theorem refl (text : Text) : StepsOver text 0 text :=
  ⟨[], rfl, rfl, nofun⟩

theorem cons (hc : Text.isOrdinary c = true) (h : StepsOver text n behind) :
    StepsOver (c :: text) (n + 1) behind := by
  obtain ⟨run, rfl, rfl, hrun⟩ := h
  exact ⟨c :: run, rfl, rfl, List.forall_mem_cons.mpr ⟨hc, hrun⟩⟩

theorem trans (h : StepsOver text m behind) (h' : StepsOver behind n rest) :
    StepsOver text (m + n) rest := by
  obtain ⟨run, rfl, rfl, hrun⟩ := h
  obtain ⟨more, rfl, rfl, hmore⟩ := h'
  refine ⟨run ++ more, (List.append_assoc ..).symm, List.length_append, ?_⟩
  exact List.forall_mem_append.mpr ⟨hrun, hmore⟩

theorem take (h : StepsOver text n behind) : ∀ c ∈ text.take n, Text.isOrdinary c = true := by
  obtain ⟨run, rfl, rfl, hrun⟩ := h
  rwa [List.take_left]

end StepsOver

/-! ## Numerals -/

namespace Numeral

variable {text behind : Text} {n : Nat}

theorem isOrdinary_of_isDigit {c : Char} (hc : c.isDigit = true) : Text.isOrdinary c = true :=
  Text.isOrdinary_of_class (p := Char.isDigit) (by decide) hc

theorem isOrdinary_of_isDigitOf {base : Nat} (hbase : base = 16 ∨ base = 8 ∨ base = 2) {c : Char}
    (hc : isDigitOf base c = true) : Text.isOrdinary c = true := by
  refine Text.isOrdinary_of_class (p := isDigitOf base) ?_ hc
  obtain rfl | rfl | rfl := hbase <;> decide

/-- The characters of a run of digits: the digits, and underscores between them. -/
theorem digitRun?_stepsOver {ok : Char → Bool}
    (hok : ∀ c, ok c = true → Text.isOrdinary c = true) {digits : Text}
    (h : digitRun? ok text = some (digits, n, behind)) : StepsOver text n behind := by
  fun_induction digitRun? ok text generalizing digits n behind with
  | case1 => cases h; exact .refl _
  | case2 => cases h
  | case3 c hunder hc => cases h; exact .cons (hok c hc) (.refl _)
  | case4 => cases h; exact .refl _
  | case5 d rest hd ih =>
    obtain ⟨⟨digits, n, behind⟩, hrun, hmore⟩ := Option.map_eq_some_iff.mp h
    cases hmore
    exact .cons (by decide) (ih hrun)
  | case6 => cases h
  | case7 c d rest hunder hc ih =>
    obtain ⟨⟨digits, n, behind⟩, hrun, hmore⟩ := Option.map_eq_some_iff.mp h
    cases hmore
    exact .cons (hok c hc) (ih hrun)
  | case8 => cases h; exact .refl _

theorem fraction?_stepsOver {digits : Option Text}
    (h : fraction? text = some (digits, n, behind)) : StepsOver text n behind := by
  rw [fraction?.eq_def] at h
  split at h
  case h_1 =>
    split at h
    case h_1 =>
      split at h
      case isTrue =>
        obtain ⟨⟨digits, n, behind⟩, hrun, hmore⟩ := Option.map_eq_some_iff.mp h
        cases hmore
        exact .cons (by decide) (digitRun?_stepsOver (fun c => isOrdinary_of_isDigit) hrun)
      case isFalse => cases h; exact .cons (by decide) (.refl _)
    case h_2 => cases h; exact .cons (by decide) (.refl _)
  case h_2 => cases h; exact .refl _

theorem exponent?_stepsOver {value : Option Int}
    (h : exponent? text = some (value, n, behind)) : StepsOver text n behind := by
  rw [exponent?.eq_def] at h
  split at h
  case h_1 mark rest =>
    split at h
    case isTrue => cases h; exact .refl _
    case isFalse hletter =>
      have hmark : Text.isOrdinary mark = true := by
        obtain rfl | rfl : mark = 'e' ∨ mark = 'E' := by
          simpa only [ne_eq, not_and_or, Classical.not_not] using hletter
        · decide
        · decide
      split at h
      case h_1 signLength negative digitsText hsign =>
        have hover : StepsOver rest signLength digitsText := by
          split at hsign
          case h_1 => cases hsign; exact .cons (by decide) (.refl _)
          case h_2 => cases hsign; exact .cons (by decide) (.refl _)
          case h_3 => cases hsign; exact .refl _
        -- Without digits behind the sign there is no exponent, and the letter stays where it is.
        have hnone : (if signLength = 0 then some (none, 0, mark :: rest) else none)
            = some (value, n, behind) → StepsOver (mark :: rest) n behind := by
          intro h
          split at h
          case isTrue => cases h; exact .refl _
          case isFalse => cases h
        split at h
        case h_1 =>
          split at h
          case isTrue =>
            obtain ⟨⟨digits, length, last⟩, hrun, hmore⟩ := Option.bind_eq_some_iff.mp h
            cases hmore
            have hdigits := digitRun?_stepsOver (fun c => isOrdinary_of_isDigit) hrun
            rw [Nat.add_comm length]
            exact .cons hmark (hover.trans hdigits)
          case isFalse => exact hnone h
        case h_2 => exact hnone h
  case h_2 => cases h; exact .refl _

/-- What of a decimal numeral follows the digits in front of the point. -/
def decimalBehind (whole : Text) (wholeLength : Nat) (behind : Text) : Option (Literal × Nat) := do
  let (fraction, fractionLength, behind) ← fraction? behind
  let (exponent, exponentLength, behind) ← exponent? behind
  let length := wholeLength + fractionLength + exponentLength
  let value := Number.ofParts whole (fraction.getD []) (exponent.getD 0)
  match behind with
  | c :: rest =>
    if c = 'j' ∨ c = 'J' then
      if mayEndBefore rest then some (.imaginary value, length + 1) else none
    else if !mayEndBefore behind then none
    else if fraction.isSome || exponent.isSome then some (.float value, length)
    else (integer? whole).map fun number => (number, length)
  | [] =>
    if fraction.isSome || exponent.isSome then some (.float value, length)
    else (integer? whole).map fun number => (number, length)

/-- With or without a point or an exponent, a number that is not imaginary ends with its digits. -/
theorem length_of_value {isFloat : Bool} {x : Float} {digits : Text} {value : Literal}
    {length : Nat}
    (h : (if isFloat then some (.float x, length)
      else (integer? digits).map fun number => (number, length)) = some (value, n)) :
    n = length := by
  split at h
  case isTrue => cases h; rfl
  case isFalse =>
    obtain ⟨number, -, hnumber⟩ := Option.map_eq_some_iff.mp h
    cases hnumber
    rfl

theorem decimalBehind_stepsOver {whole : Text} {wholeLength : Nat} {value : Literal}
    (hwhole : StepsOver text wholeLength behind)
    (h : decimalBehind whole wholeLength behind = some (value, n)) :
    ∃ last, StepsOver text n last := by
  obtain ⟨⟨fraction, fractionLength, afterFraction⟩, hfraction, hmore⟩ :=
    Option.bind_eq_some_iff.mp h
  obtain ⟨⟨exponent, exponentLength, afterExponent⟩, hexponent, hlast⟩ :=
    Option.bind_eq_some_iff.mp hmore
  have hall := (hwhole.trans (fraction?_stepsOver hfraction)).trans (exponent?_stepsOver hexponent)
  dsimp only at hlast
  split at hlast
  case h_1 c rest =>
    split at hlast
    case isTrue hmark =>
      split at hlast
      case isTrue =>
        cases hlast
        have hletter : Text.isOrdinary c = true := by obtain rfl | rfl := hmark <;> decide
        exact ⟨rest, hall.trans (.cons hletter (.refl _))⟩
      case isFalse => cases hlast
    case isFalse =>
      split at hlast
      case isTrue => cases hlast
      case isFalse => exact ⟨_, length_of_value hlast ▸ hall⟩
  case h_2 => exact ⟨_, length_of_value hlast ▸ hall⟩

theorem decimal?_eq (text : Text) :
    decimal? text = if text.head? == some '.' then decimalBehind [] 0 text
      else (digitRun? Char.isDigit text).bind fun (whole, length, behind) =>
        decimalBehind whole length behind := by
  rw [decimal?]
  split <;> rfl

theorem decimal?_stepsOver {value : Literal} (h : decimal? text = some (value, n)) :
    ∃ behind, StepsOver text n behind := by
  rw [decimal?_eq] at h
  split at h
  case isTrue => exact decimalBehind_stepsOver (.refl _) h
  case isFalse =>
    obtain ⟨⟨whole, length, behind⟩, hrun, hmore⟩ := Option.bind_eq_some_iff.mp h
    have hwhole := digitRun?_stepsOver (fun c => isOrdinary_of_isDigit) hrun
    exact decimalBehind_stepsOver hwhole hmore

/-- The letters that announce a base, and the bases. -/
theorem baseOf?_cases {mark : Char} {base : Nat} (h : baseOf? mark = some base) :
    Text.isOrdinary mark = true ∧ (base = 16 ∨ base = 8 ∨ base = 2) := by
  rw [baseOf?] at h
  split at h
  case isTrue hmark =>
    cases h
    obtain rfl | rfl := hmark <;> decide
  case isFalse =>
    split at h
    case isTrue hmark =>
      cases h
      obtain rfl | rfl := hmark <;> decide
    case isFalse =>
      split at h
      case isTrue hmark =>
        cases h
        obtain rfl | rfl := hmark <;> decide
      case isFalse => cases h

theorem read?_stepsOver {value : Literal} (h : read? text = some (value, n)) :
    ∃ behind, StepsOver text n behind := by
  rw [read?.eq_def] at h
  split at h
  case h_1 mark rest =>
    split at h
    case h_1 base hbase =>
      obtain ⟨⟨digits, length, behind⟩, hrun, h⟩ := Option.bind_eq_some_iff.mp h
      obtain ⟨hletter, hbases⟩ := baseOf?_cases hbase
      have hdigits := digitRun?_stepsOver (fun c => isOrdinary_of_isDigitOf hbases) hrun
      dsimp only at h
      split at h
      case isTrue => cases h
      case isFalse =>
        cases h
        exact ⟨behind, .cons (by decide) (.cons hletter hdigits)⟩
    case h_2 => exact decimal?_stepsOver h
  case h_2 => exact decimal?_stepsOver h

end Numeral

/-! ## Tokens -/

namespace Token

/-- A symbol of arithmetic is spelled with itself. -/
theorem symbolRead?_stepsOver {text : Text} {mark : Symbol} {n : Nat}
    (h : Symbol.read? text = some (mark, n)) (hmark : (symbol mark).isArithmetic = true) :
    ∃ m behind, n = m + 1 ∧ StepsOver text n behind := by
  rw [Symbol.read?.eq_def] at h
  split at h <;> cases h <;> first
    | exact ⟨0, _, rfl, .cons (by decide) (.refl _)⟩
    | exact ⟨1, _, rfl, .cons (by decide) (.cons (by decide) (.refl _))⟩
    | cases hmark

theorem isOrdinary_of_isWordPart {c : Char} (hc : Numeral.isWordPart c = true) :
    Text.isOrdinary c = true :=
  Text.isOrdinary_of_class (p := Numeral.isWordPart) (by decide) hc

/-- A token of arithmetic is spelled with ordinary characters. -/
theorem read?_ordinary {c : Char} {rest : Text} {t : Token} {n : Nat}
    (h : read? (c :: rest) = some (t, n)) (ht : t.isArithmetic = true) :
    Text.isOrdinary c = true ∧ ∀ d ∈ (c :: rest).take n, Text.isOrdinary d = true := by
  rw [read?] at h
  split at h
  case h_1 =>
    obtain ⟨⟨q, length⟩, -, hmore⟩ := Option.map_eq_some_iff.mp h
    cases hmore
    cases ht
  case h_2 =>
    split at h
    case isTrue hstart =>
      obtain ⟨found, -, hmore⟩ := Option.map_eq_some_iff.mp h
      cases hmore
      have hword : ∀ d ∈ (c :: rest).takeWhile Numeral.isWordPart, Text.isOrdinary d = true :=
        fun d hd => isOrdinary_of_isWordPart (List.mem_takeWhile_imp hd)
      have hover : StepsOver (c :: rest) ((c :: rest).takeWhile Numeral.isWordPart).length
          ((c :: rest).dropWhile Numeral.isWordPart) :=
        ⟨_, List.takeWhile_append_dropWhile.symm, rfl, hword⟩
      exact ⟨Text.isOrdinary_of_class (p := isWordStart) (by decide) hstart, hover.take⟩
    case isFalse =>
      split at h
      case isTrue hstart =>
        obtain ⟨⟨value, length⟩, hvalue, hmore⟩ := Option.map_eq_some_iff.mp h
        cases hmore
        obtain ⟨behind, hover⟩ := Numeral.read?_stepsOver hvalue
        refine ⟨?_, hover.take⟩
        simp only [Bool.or_eq_true, Bool.and_eq_true, beq_iff_eq] at hstart
        obtain hdigit | ⟨rfl, -⟩ := hstart
        · exact Numeral.isOrdinary_of_isDigit hdigit
        · decide
      case isFalse =>
        obtain ⟨⟨mark, length⟩, hread, hmore⟩ := Option.map_eq_some_iff.mp h
        cases hmore
        obtain ⟨m, behind, rfl, hover⟩ := symbolRead?_stepsOver hread ht
        exact ⟨hover.take c List.mem_cons_self, hover.take⟩

/-! ## The scan -/

/-- One step of the scan: over a whole comment, or over ordinary characters. -/
theorem scan?_cons {place : Place} {pending : List Symbol} {c : Char} {rest : Text}
    {ts : List Token} (h : scan? 0 place pending (c :: rest) = some ts)
    (hts : Grammar.AllArithmetic ts) :
    ∃ skip place pending us, scan? skip place pending rest = some us ∧ Grammar.AllArithmetic us ∧
      (c = '#' ∧ skip = (rest.takeWhile (· != '\n')).length ∨
        Text.isOrdinary c = true ∧ ∀ d ∈ rest.take skip, Text.isOrdinary d = true) := by
  rw [scan?.eq_def] at h
  dsimp only at h
  split at h
  case isTrue hspace =>
    have hc := Text.isOrdinary_of_class (p := isSpace) (by decide) hspace
    exact ⟨0, _, _, ts, h, hts, .inr ⟨hc, nofun⟩⟩
  case isFalse =>
    split at h
    case isTrue hsign => exact ⟨_, _, _, ts, h, hts, .inl ⟨hsign, rfl⟩⟩
    case isFalse =>
      split at h
      case isTrue hfeed =>
        subst hfeed
        split at h
        case isTrue =>
          obtain ⟨us, hus, rfl⟩ := Option.map_eq_some_iff.mp h
          have harithmetic := (List.forall_mem_cons.mp hts).2
          exact ⟨0, _, _, us, hus, harithmetic, .inr ⟨by decide, nofun⟩⟩
        case isFalse => exact ⟨0, _, _, ts, h, hts, .inr ⟨by decide, nofun⟩⟩
      case isFalse =>
        split at h
        case isTrue hbackslash =>
          subst hbackslash
          split at h
          case h_1 d tail =>
            exact ⟨1, _, _, ts, h, hts,
              .inr ⟨by decide, List.forall_mem_singleton.mpr (by decide)⟩⟩
          case h_2 => cases h
        case isFalse =>
          split at h
          case isTrue => cases h
          case isFalse =>
            obtain ⟨⟨t, n⟩, hread, hmore⟩ := Option.bind_eq_some_iff.mp h
            obtain ⟨others, -, hmore⟩ := Option.bind_eq_some_iff.mp hmore
            obtain ⟨us, hscan, hlast⟩ := Option.bind_eq_some_iff.mp hmore
            cases hlast
            obtain ⟨ht, hus⟩ := List.forall_mem_cons.mp hts
            obtain ⟨hc, hall⟩ := read?_ordinary hread ht
            refine ⟨n - 1, _, _, us, hscan, hus, .inr ⟨hc, ?_⟩⟩
            cases n with
            | zero => exact nofun
            | succ n => exact (List.forall_mem_cons.mp hall).2

/-- **Outside of comments, the scan meets no brace and no quote**, if all its tokens are
arithmetic. -/
theorem clear_of_scan? {skip : Nat} {place : Place} {pending : List Symbol} {text : Text}
    {ts : List Token} (hreturn : '\r' ∉ text) (h : scan? skip place pending text = some ts)
    (hts : Grammar.AllArithmetic ts) : Clear .code (text.drop skip) := by
  -- What is still to be skipped has been judged already, so the law is about what is behind it.
  induction text generalizing skip place pending ts with
  | nil => rw [List.drop_nil]; trivial
  | cons c rest ih =>
    have hrest : '\r' ∉ rest := fun hmem => hreturn (List.mem_cons_of_mem c hmem)
    cases skip with
    | succ skip => exact ih hrest h hts
    | zero =>
      obtain ⟨skip, place, pending, us, hscan, hus, ⟨rfl, rfl⟩ | ⟨hc, hword⟩⟩ := scan?_cons h hts
      · -- The scan goes on where the comment ends.
        have hbehind := ih hrest hscan hus
        have hline := @List.drop_left _ (rest.takeWhile (· != '\n')) (rest.dropWhile (· != '\n'))
        rw [List.takeWhile_append_dropWhile] at hline
        exact ⟨fun _ => ⟨rfl, rfl⟩, clear_comment hrest (hline ▸ hbehind)⟩
      · have hbehind := (clear_ordinary_append hword).mpr (ih hrest hscan hus)
        rw [List.take_append_drop] at hbehind
        exact (clear_ordinary_append (List.forall_mem_singleton.mpr hc)).mpr hbehind

end Token

/-- **What has a value is clear outside of its comments**: it has no braces and no quotes there. -/
theorem clear_of_evaluate_ok {limits : Limits} {text : Text} {x : Float}
    (h : evaluate limits text = .ok x) : Clear .code text := by
  rw [evaluate] at h
  split at h
  case isTrue => cases h
  case isFalse =>
    dsimp only at h
    split at h
    case isTrue => cases h
    case isFalse =>
      split at h
      case h_1 => cases h
      case h_2 e hread =>
        split at h
        case h_1 y hvalue =>
          obtain ⟨ts, htokens, htree⟩ := Option.bind_eq_some_iff.mp hread
          have hts := Grammar.allArithmetic_of_ofTokens? htree (Expr.isArithmetic_of_eval_ok hvalue)
          have hreturn := Token.not_mem_unifyLineEnds false (formulaSource text)
          have hclear := Token.clear_of_scan? hreturn htokens hts
          exact clear_of_formulaSource hclear
        case h_2 => cases h

end Formulary
