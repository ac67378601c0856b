/-
Formulary.Proofs.Scanning — the text of a formula is cut into its tokens.

Whether a token is read off a text as it was written depends on what follows. In a formula that is
settled by where one stands between the tokens: in front of an operand come digits, letters and the
point, in front of an operator come other characters. `Position` keeps this, and the number of
parentheses that are open, as a state that each token changes. A formula goes from the place in
front of an operand to the place behind it, at the same depth; this one law is all that the scan
needs to know about formulas.
-/
import Formulary.Proofs.Formula
import Formulary.Proofs.Rendering

namespace Formulary

/-! ## Positions between tokens -/

/-- Where one stands between the tokens of a formula: whether an operand is to come next, and how
many parentheses are open. -/
structure Position where
  operand : Bool
  depth : Nat

namespace Position

/-- The position behind a token, if the token may stand here. -/
def after : Position → Token → Option Position
  | ⟨true, depth⟩, .number _ => some ⟨false, depth⟩
  | ⟨true, depth⟩, .name _ => some ⟨false, depth⟩
  | ⟨_, depth⟩, .symbol .plus => some ⟨true, depth⟩
  | ⟨_, depth⟩, .symbol .minus => some ⟨true, depth⟩
  | ⟨false, depth⟩, .symbol .star => some ⟨true, depth⟩
  | ⟨false, depth⟩, .symbol .slash => some ⟨true, depth⟩
  | ⟨false, depth⟩, .symbol .doubleSlash => some ⟨true, depth⟩
  | ⟨false, depth⟩, .symbol .percent => some ⟨true, depth⟩
  | ⟨false, depth⟩, .symbol .doubleStar => some ⟨true, depth⟩
  | ⟨false, depth⟩, .symbol .comma => some ⟨true, depth⟩
  | ⟨_, depth⟩, .symbol .openParen => some ⟨true, depth + 1⟩
  | ⟨_, depth + 1⟩, .symbol .closeParen => some ⟨false, depth⟩
  | _, _ => none

/-- The position behind a sequence of tokens. -/
def run (p : Position) (ts : List Token) : Option Position :=
  ts.foldlM after p

theorem run_nil (p : Position) : p.run [] = some p :=
  rfl

theorem run_cons (p : Position) (t : Token) (ts : List Token) :
    p.run (t :: ts) = (p.after t).bind fun q => q.run ts :=
  List.foldlM_cons

theorem run_append (p : Position) (ts us : List Token) :
    p.run (ts ++ us) = (p.run ts).bind fun q => q.run us :=
  List.foldlM_append

/-- What may be the next character: in front of an operand a digit, a letter or the point, behind
one an operator or a comma, and a blank, a sign or a parenthesis anywhere. -/
def admits (operand : Bool) (c : Char) : Bool :=
  Token.isSpace c || "+-()".toList.contains c ||
    if operand then c.isAlphanum || c == '.' else "*/%,^".toList.contains c

end Position

/-! ## Formulas -/

namespace Formula

open Position

variable {extra : Strength → Formula Empty → Bool}

theorem run_tokens_of_body {f : Formula Empty}
    (hbody : ∀ depth, (Position.mk true depth).run ((f.body extra).map Lexeme.closed)
      = some ⟨false, depth⟩) (place : Strength) (depth : Nat) :
    (Position.mk true depth).run (f.tokens extra place) = some ⟨false, depth⟩ := by
  rw [tokens, lexemes, enclosed]
  split
  case isTrue =>
    simp [run_cons, run_append, run_nil, after, Lexeme.closed, hbody]
  case isFalse => exact hbody depth

/-- The arguments of a call lead up to its closing parenthesis. -/
theorem run_arguments {fs : List (Formula Empty)}
    (hfs : ∀ f ∈ fs, ∀ depth, (Position.mk true depth).run (f.tokens extra .whole)
      = some ⟨false, depth⟩) (depth : Nat) :
    (Position.mk true (depth + 1)).run
        ((argumentBodies extra fs).map Lexeme.closed ++ [.symbol .closeParen])
      = some ⟨false, depth⟩ := by
  induction fs with
  | nil => rw [argumentBodies]; rfl
  | cons f others ih =>
    obtain ⟨hf, hothers⟩ := List.forall_mem_cons.mp hfs
    have hfirst := hf (depth + 1)
    rw [tokens, lexemes] at hfirst
    cases others with
    | nil => simp [argumentBodies, run_append, run_cons, run_nil, hfirst, after]
    | cons g others =>
      simp only [argumentBodies, List.map_append, List.map_cons, List.append_assoc,
        List.cons_append, run_append, hfirst, Option.bind_some]
      exact ih hothers

/-- **A formula leads from the place in front of an operand to the place behind it**, and closes the
parentheses that it opens. -/
theorem run_tokens (extra : Strength → Formula Empty → Bool) (f : Formula Empty) (place : Strength)
    (depth : Nat) : (Position.mk true depth).run (f.tokens extra place) = some ⟨false, depth⟩ := by
  induction f using Formula.induct generalizing place depth with
  | numeral n => exact run_tokens_of_body (fun _ => rfl) place depth
  | double x => exact run_tokens_of_body (fun _ => rfl) place depth
  | constant name => exact run_tokens_of_body (fun _ => rfl) place depth
  | hole h => exact h.elim
  | signed op operand ih =>
    refine run_tokens_of_body (fun depth => ?_) place depth
    have hoperand := ih .factor depth
    rw [tokens, lexemes] at hoperand
    cases op with
    | plus | minus =>
      simp [body, run_cons, Lexeme.closed, UnaryOp.symbol, after, hoperand]
  | binary op left right hleft hright =>
    refine run_tokens_of_body (fun depth => ?_) place depth
    have hl := hleft op.leftPlace depth
    have hr := hright op.rightPlace depth
    rw [tokens, lexemes] at hl hr
    simp only [body, List.map_append, List.map_cons, run_append, run_cons, hl, Option.bind_some]
    cases op <;> exact hr
  | call g fs ih =>
    refine run_tokens_of_body (fun depth => ?_) place depth
    simp only [body, List.map_append, List.map_cons, List.map_nil, List.cons_append]
    exact run_arguments (fun f hf => ih f hf .whole) depth

end Formula

/-! ## What follows a token -/

namespace Position

variable {p q : Position} {t : Token}

theorem toNat_lt_of_admits {operand : Bool} {c : Char} (h : admits operand c) : c.toNat < 128 := by
  simp only [admits, Token.isSpace, Bool.or_eq_true, beq_iff_eq, List.contains_iff_mem] at h
  rcases h with (((rfl | rfl) | rfl) | h) | h
  · decide
  · decide
  · decide
  · exact Text.toNat_lt_of_mem (by decide) h
  · cases operand with
    | true =>
      rcases Bool.or_eq_true_iff.mp h with h | h
      · exact Text.toNat_lt_of_isAlphanum h
      · rw [beq_iff_eq.mp h]
        decide
    | false => exact Text.toNat_lt_of_mem (by decide) (List.contains_iff_mem.mp h)

/-- A character that may come next cannot go on with the token in front. -/
theorem mayEndBefore_of_admits (ht : p.after t = some q) {c : Char} (hc : admits q.operand c) :
    t.mayEndBefore c := by
  -- Both classes of characters are ASCII, so the two laws are looked up in a table.
  have hascii := toNat_lt_of_admits hc
  have hword : admits false c = true →
      (!Numeral.isWordPart c && c != '.' && !Quotation.isQuote c) = true :=
    Text.forall_ascii (p := fun c => admits false c = true →
      (!Numeral.isWordPart c && c != '.' && !Quotation.isQuote c) = true) (by decide) c hascii
  have hmark : admits true c = true → (c != '=' && c != '>' && c != '*' && c != '/') = true :=
    Text.forall_ascii (p := fun c => admits true c = true →
      (c != '=' && c != '>' && c != '*' && c != '/') = true) (by decide) c hascii
  obtain ⟨operand, depth⟩ := p
  cases t with
  | number | name =>
    cases operand <;> cases ht
    exact hword hc
  | symbol mark =>
    cases mark <;> cases operand <;> first
      | rfl
      | (cases ht; exact hmark hc)
      | cases ht
  | keyword | quotation | lineEnd => cases operand <;> cases ht

/-- The spelling of a token that may stand at a position begins with a character that may. -/
theorem admits_of_mem_head? (ht : p.after t = some q) {word : Text} (hword : t.IsSpelled word) :
    ∀ c ∈ word.head?, admits p.operand c := by
  intro c hc
  obtain ⟨operand, depth⟩ := p
  show admits operand c = true
  cases hword with
  | double d =>
    cases operand <;> cases ht
    obtain ⟨first, tail, htext, hfirst⟩ := Numeral.exists_head_text d
    rw [htext] at hc
    obtain rfl : first = c := Option.some.inj hc
    rcases hfirst with hdigit | ⟨rfl, -⟩
    · simp [admits, Char.isAlphanum, hdigit]
    · rfl
  | listed hword =>
    cases t with
    | number | name =>
      cases operand <;> cases ht
      rcases Token.isAlphanum_or_symbol hword with ⟨-, hall⟩ | ⟨mark, hmark⟩
      · simp [admits, hall c (List.mem_of_mem_head? hc)]
      · cases hmark
    | symbol mark =>
      have hall : (Token.symbol mark).spellings.all (fun word => word.head?.all (admits operand))
          = true := by
        cases mark <;> cases operand <;> first | decide | cases ht
      exact (Option.all_eq_true _ _).mp (List.all_eq_true.mp hall word hword) c hc
    | keyword | quotation | lineEnd => exact absurd hword List.not_mem_nil

/-- A text of a class of characters that no parenthesis belongs to has none. -/
theorem count_eq_zero_of_forall {class? : Char → Bool} {word : Text}
    (hall : ∀ c ∈ word, class? c = true) {c : Char} (hc : class? c = false) : word.count c = 0 :=
  List.count_eq_zero.mpr (Text.not_mem_of_forall hall hc)

/-- A token changes the depth as its spelling does. -/
theorem depth_of_after (ht : p.after t = some q) {word : Text} (hword : t.IsSpelled word) :
    p.depth + word.count '(' = q.depth + word.count ')' := by
  obtain ⟨operand, depth⟩ := p
  cases hword with
  | double d =>
    have hall := fun c => @Numeral.isPart_of_mem_text d c
    rw [count_eq_zero_of_forall hall (c := '(') rfl, count_eq_zero_of_forall hall (c := ')') rfl]
    cases operand <;> cases ht
    rfl
  | listed hword =>
    cases t with
    | number | name =>
      rcases Token.isAlphanum_or_symbol hword with ⟨-, hall⟩ | ⟨mark, hmark⟩
      · rw [count_eq_zero_of_forall hall (c := '(') rfl,
          count_eq_zero_of_forall hall (c := ')') rfl]
        cases operand <;> cases ht
        rfl
      · cases hmark
    | symbol mark =>
      have hcount : ∀ mark, ∀ word ∈ (Token.symbol mark).spellings,
          word.count '(' = (if mark = .openParen then 1 else 0) ∧
            word.count ')' = if mark = .closeParen then 1 else 0 := by
        intro mark
        cases mark <;> decide
      rw [(hcount mark word hword).1, (hcount mark word hword).2]
      cases mark <;> cases operand <;> cases depth <;> cases ht <;> rfl
    | keyword | quotation | lineEnd => exact absurd hword List.not_mem_nil

end Position

/-! ## Nesting -/

/-- In no place of the text are more parentheses open than the limit. -/
def NestsWithin (limit : Nat) (text : Text) : Prop :=
  ∀ before, before <+: text → before.count '(' ≤ before.count ')' + limit

variable {ts : List Token} {text : Text}

/-- Every position between the tokens is reached in the text too, with as many parentheses open. -/
theorem Rendered.exists_prefix (h : Rendered Token.IsSpelled ts text) {before : List Token}
    (hbefore : before <+: ts) {p q : Position} (hrun : p.run before = some q) :
    ∃ b, b <+: text ∧ p.depth + b.count '(' = q.depth + b.count ')' := by
  induction h generalizing before p with
  | nil hgap =>
    obtain rfl := List.prefix_nil.mp hbefore
    cases hrun
    exact ⟨[], List.nil_prefix, rfl⟩
  | @cons gap word behind t ts hgap hword hbehind ih =>
    cases before with
    | nil =>
      cases hrun
      exact ⟨[], List.nil_prefix, rfl⟩
    | cons u before =>
      obtain ⟨rfl, hrest⟩ := List.cons_prefix_cons.mp hbefore
      rw [Position.run_cons] at hrun
      obtain ⟨r, hafter, hrun⟩ := Option.bind_eq_some_iff.mp hrun
      obtain ⟨b, hb, hcount⟩ := ih hrest hrun
      have hword := Position.depth_of_after hafter hword
      have hgap : ∀ c, Token.isSpace c = false → gap.count c = 0 := by
        intro c hc
        exact List.count_eq_zero.mpr (Text.not_mem_of_forall hgap hc)
      refine ⟨gap ++ word ++ b, (List.prefix_append_right_inj _).mpr hb, ?_⟩
      simp only [List.count_append, hgap '(' rfl, hgap ')' rfl]
      omega

/-! ## The scan -/

namespace Token

/-- Stepping over a token is beginning behind it. -/
theorem scan?_skip (word behind : Text) (place : Place) (pending : List Symbol) :
    scan? word.length place pending (word ++ behind) = scan? 0 place pending behind := by
  induction word with
  | nil => rfl
  | cons c word ih =>
    rw [List.length_cons, List.cons_append, scan?]
    exact ih

/-- Within a line, blanks are stepped over. -/
theorem scan?_gap {gap : Text} (h : IsGap gap) (pending : List Symbol) (behind : Text) :
    scan? 0 .within pending (gap ++ behind) = scan? 0 .within pending behind := by
  induction gap with
  | nil => rfl
  | cons c gap ih =>
    obtain ⟨hc, hgap⟩ := List.forall_mem_cons.mp h
    rw [List.cons_append, scan?.eq_def]
    simp only
    rw [if_pos hc]
    exact ih hgap

/-- The brackets that a token opens or closes are the parentheses that it is counted with. -/
theorem nesting?_of_after {p q : Position} {t : Token} (ht : p.after t = some q)
    (hdepth : q.depth ≤ maxNesting) :
    nesting? (List.replicate p.depth .closeParen) t
      = some (List.replicate q.depth .closeParen) := by
  obtain ⟨operand, depth⟩ := p
  cases t with
  | number | name => cases operand <;> cases ht; rfl
  | symbol mark =>
    cases mark with
    | openParen =>
      have hopen : q.depth = depth + 1 := by cases operand <;> cases ht <;> rfl
      rw [hopen] at hdepth ⊢
      simp only [nesting?, Symbol.closing?, List.length_replicate]
      rw [if_neg (by omega)]
      rfl
    | closeParen =>
      cases depth with
      | zero => cases operand <;> cases ht
      | succ depth => cases operand <;> cases ht <;> rfl
    | _ => cases operand <;> cases ht <;> rfl
  | keyword | quotation | lineEnd => cases operand <;> cases ht

theorem ne_of_isWritten {c d : Char} (hc : isWritten c = true) (hd : isWritten d = false) :
    c ≠ d := by
  intro h
  rw [h, hd] at hc
  cases hc

theorem isSpace_of_isWritten {c : Char} (hc : isWritten c = true) : isSpace c = false := by
  simp [isSpace, ne_of_isWritten hc (d := ' ') rfl, ne_of_isWritten hc (d := '\t') rfl,
    ne_of_isWritten hc (d := '\x0c') rfl]

/-- A token that is read where no indentation counts is the next one of the scan. -/
theorem scan?_read {place : Place} (hplace : place.isIndented = false) {t : Token}
    {word behind : Text} (hword : t.IsSpelled word)
    (hread : read? (word ++ behind) = some (t, word.length))
    {pending others : List Symbol} (hnesting : nesting? pending t = some others) :
    scan? 0 place pending (word ++ behind) = (scan? 0 .within others behind).map (t :: ·) := by
  obtain ⟨hne, hwritten⟩ := spelling_written hword
  cases word with
  | nil => exact absurd rfl hne
  | cons c word =>
    have hc := hwritten c List.mem_cons_self
    rw [List.cons_append] at hread ⊢
    rw [scan?.eq_def]
    simp only [isSpace_of_isWritten hc, hplace, Bool.false_and, Bool.false_eq_true, if_false,
      if_neg (ne_of_isWritten hc (d := '#') rfl), if_neg (ne_of_isWritten hc (d := '\n') rfl),
      if_neg (ne_of_isWritten hc (d := Text.backslash) rfl), hread, hnesting, bind, Option.bind,
      List.length_cons, Nat.add_sub_cancel, scan?_skip]
    cases scan? 0 .within others behind <;> rfl

/-- A rendering begins with a character that may come next. -/
theorem admits_of_rendered {ts : List Token} {text : Text} (h : Rendered IsSpelled ts text)
    {p q : Position} (hrun : p.run ts = some q) :
    ∀ c ∈ text.head?, Position.admits p.operand c := by
  have hspace : ∀ c, isSpace c = true → Position.admits p.operand c = true := by
    intro c hc
    simp [Position.admits, hc]
  cases h with
  | nil hgap =>
    intro c hc
    exact hspace c (hgap c (List.mem_of_mem_head? hc))
  | @cons gap word behind t ts hgap hword hbehind =>
    cases gap with
    | cons d gap =>
      rintro _ ⟨⟩
      exact hspace d (hgap d List.mem_cons_self)
    | nil =>
      obtain ⟨r, hafter, -⟩ := Option.bind_eq_some_iff.mp hrun
      have hhead := Position.admits_of_mem_head? hafter hword
      obtain ⟨d, word, rfl⟩ := List.exists_cons_of_ne_nil (spelling_written hword).1
      exact hhead

/-- **Within a line, a rendering is cut into its tokens**, if they are those of a formula from some
position on and no more brackets are open at once than may be. -/
theorem scan?_rendered {ts : List Token} {text : Text} (h : Rendered IsSpelled ts text)
    {p q : Position} (hrun : p.run ts = some q) (hclosed : q.depth = 0)
    (hdepth : ∀ before r, before <+: ts → p.run before = some r → r.depth ≤ maxNesting)
    (hshort : ∀ t ∈ ts, t.isShort) (hcaret : '^' ∉ text) :
    scan? 0 .within (List.replicate p.depth .closeParen) text = some ts := by
  induction h generalizing p with
  | @nil gap hgap =>
    obtain rfl : p = q := Option.some.inj hrun
    have hscan := scan?_gap hgap (List.replicate p.depth .closeParen) []
    rw [List.append_nil] at hscan
    rw [hscan, hclosed]
    rfl
  | @cons gap word behind t ts hgap hword hbehind ih =>
    obtain ⟨r, hafter, hrest⟩ := Option.bind_eq_some_iff.mp hrun
    have hfirst : p.run [t] = some r := by rw [Position.run_cons, hafter]; rfl
    obtain ⟨hshortHead, hshortRest⟩ := List.forall_mem_cons.mp hshort
    simp only [List.mem_append, not_or] at hcaret
    have hnesting := nesting?_of_after hafter
      (hdepth [t] r (List.cons_prefix_cons.mpr ⟨rfl, List.nil_prefix⟩) hfirst)
    -- The position behind the token says which characters can follow, and none of them goes on
    -- with it.
    have hread : read? (word ++ behind) = some (t, word.length) := by
      refine read?_spelling hword ?_ hshortHead fun c hc => ?_
      · rintro rfl
        exact hcaret.1.2 List.mem_cons_self
      · exact Position.mayEndBefore_of_admits hafter (admits_of_rendered hbehind hrest c hc)
    have hdepthRest : ∀ before u, before <+: ts → r.run before = some u → u.depth ≤ maxNesting := by
      intro before u hbefore hu
      refine hdepth (t :: before) u (List.cons_prefix_cons.mpr ⟨rfl, hbefore⟩) ?_
      rw [Position.run_cons, hafter]
      exact hu
    have hbehind := ih hrest hdepthRest hshortRest hcaret.2
    rw [List.append_assoc, scan?_gap hgap, scan?_read rfl hword hread hnesting, hbehind]
    rfl

/-- At the margin, a line begins as it goes on. -/
theorem scan?_margin {text : Text} (hhead : ∀ c ∈ text.head?, isWritten c = true)
    (pending : List Symbol) :
    scan? 0 (.lineStart 0 0) pending text = scan? 0 .within pending text := by
  cases text with
  | nil => rfl
  | cons c rest =>
    have hc := hhead c rfl
    rw [scan?.eq_def, scan?.eq_def]
    simp only [isSpace_of_isWritten hc, Bool.false_eq_true, if_false,
      if_neg (ne_of_isWritten hc (d := '#') rfl), if_neg (ne_of_isWritten hc (d := '\n') rfl),
      if_neg (ne_of_isWritten hc (d := Text.backslash) rfl)]
    rfl

theorem unifyLineEnds_of_not_mem {text : Text} (h : '\r' ∉ text) :
    unifyLineEnds false text = text := by
  induction text with
  | nil => rfl
  | cons c rest ih =>
    simp only [List.mem_cons, not_or] at h
    rw [unifyLineEnds, if_neg (Ne.symm h.1), if_neg (by simp), ih h.2]

/-- **The text of a formula is cut into its tokens**, if it begins with the first one, has no carets
and opens no more brackets at once than may be open. -/
theorem ofText?_rendered {ts : List Token} {text : Text} (h : Rendered IsSpelled ts text)
    (hrun : (Position.mk true 0).run ts = some ⟨false, 0⟩)
    (hdepth : ∀ before r, before <+: ts → (Position.mk true 0).run before = some r →
      r.depth ≤ maxNesting)
    (hshort : ∀ t ∈ ts, t.isShort) (hcaret : '^' ∉ text)
    (hhead : ∀ c ∈ text.head?, Text.isBlank c = false) : ofText? text = some ts := by
  have hreturn : '\r' ∉ text := by
    intro hmem
    rcases h.isWritten _ hmem with hc | hc
    · cases hc
    · cases hc
  have hmargin : ∀ c ∈ text.head?, isWritten c = true := by
    intro c hc
    refine (h.isWritten c (List.mem_of_mem_head? hc)).resolve_left fun hspace => ?_
    have hgap : IsGap [c] := List.forall_mem_singleton.mpr hspace
    have hblank := hgap.isBlank c List.mem_cons_self
    rw [hhead c hc] at hblank
    cases hblank
  rw [ofText?, unifyLineEnds_of_not_mem hreturn, scan?_margin hmargin]
  exact scan?_rendered h hrun rfl hdepth hshort hcaret

end Token

end Formulary
