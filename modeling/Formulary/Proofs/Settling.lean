/-
Formulary.Proofs.Settling — formulas whose placeholders have been replaced by integers.

A placeholder is written as an atom, so nothing protects what is put in its place. The digits of a
number are an atom too, but a negative number begins with a sign: as the base of a power, which has
to be an atom, it falls apart, and the sign stands in front of the whole power. In every other place
a signed number is as good as an atom, because signs bind more tightly than products and sums.

`settle` is the formula that is read after the replacement, with that one exception. Its tokens are
those of the formula with every hole replaced, when only the parentheses that are needed are
written.
-/
import Formulary.Proofs.Formula

namespace Formulary

/-! ## Integers in formulas -/

/-- The tokens of an integer. -/
def Token.ofInt (n : Int) : List Token :=
  if n < 0 then [.symbol .minus, .number (.int n.natAbs)] else [.number (.int n.natAbs)]

namespace Formula

variable {Hole : Type}

/-- An integer as a formula: its digits, behind a minus if it is negative. -/
def ofInt (n : Int) : Formula Empty :=
  if n < 0 then .signed .minus (.numeral n.natAbs) else .numeral n.natAbs

/-- The digits of a number have its value, or are too large to have one. -/
theorem eval_numeral (limit : Int) (n : Nat) :
    (Expr.literal (.int n)).eval limit
      = match Number.ofInt? n with
        | some x => .ok x
        | none => .error .literalTooLarge := by
  rw [Expr.eval]
  -- The equation of `Literal.number` would be checked by computing the greatest double.
  delta Literal.number
  dsimp only
  generalize Number.ofInt? n = converted
  cases converted <;> rfl

/-- A negative number is the opposite of its size. -/
theorem ofInt?_negSucc (m : Nat) :
    Number.ofInt? (Int.negSucc m) = (Number.ofInt? m.succ).map fun x => -x := by
  rw [Number.ofInt?, Number.ofInt?, Int.natAbs_negSucc, Int.natAbs_natCast]
  split
  case isTrue => rfl
  case isFalse => rfl

/-- **An integer is read as the number that it is**, or is too large to be one. -/
theorem eval_ofInt (limit : Int) (n : Int) :
    ((ofInt n).toExpr Empty.elim).eval limit
      = match Number.ofInt? n with
        | some x => .ok x
        | none => .error .literalTooLarge := by
  cases n with
  | ofNat m =>
    have hm : ¬ Int.ofNat m < 0 := Int.not_lt.mpr (Int.natCast_nonneg m)
    rw [ofInt, if_neg hm, toExpr, eval_numeral, Int.ofNat_eq_natCast, Int.natAbs_natCast]
  | negSucc m =>
    rw [ofInt, if_pos (Int.negSucc_lt_zero m), toExpr, toExpr, Expr.eval, eval_numeral,
      Int.natAbs_negSucc, ofInt?_negSucc]
    generalize Number.ofInt? m.succ = converted
    cases converted <;> rfl

/-! ## Settled formulas -/

/-- The hole that is the base of a power, if it is one. -/
def base? : BinaryOp → Formula Hole → Option Hole
  | .power, .hole h => some h
  | _, _ => none

theorem base?_eq_some {op : BinaryOp} {left : Formula Hole} {h : Hole} :
    base? op left = some h ↔ op = .power ∧ left = .hole h := by
  constructor
  · intro found
    cases op <;> cases left <;> cases found
    exact ⟨rfl, rfl⟩
  · rintro ⟨rfl, rfl⟩
    rfl

mutual

/-- The formula that is read when every hole is replaced by the text of an integer. A minus at the
base of a power stands in front of the power. -/
def settle (value : Hole → Int) : Formula Hole → Formula Empty
  | .numeral n => .numeral n
  | .double x => .double x
  | .constant name => .constant name
  | .hole h => ofInt (value h)
  | .signed op operand => .signed op (settle value operand)
  | .binary op left right =>
    match (base? op left).filter fun h => value h < 0 with
    | some h => .signed .minus (.binary .power (.numeral (value h).natAbs) (settle value right))
    | none => .binary op (settle value left) (settle value right)
  | .call f args => .call f (settleAll value args)

/-- The formulas that are read when every hole is replaced. -/
def settleAll (value : Hole → Int) : List (Formula Hole) → List (Formula Empty)
  | [] => []
  | f :: rest => settle value f :: settleAll value rest

end

mutual

/-- The holes of a formula that are the base of a power. -/
def bases : Formula Hole → List Hole
  | .numeral _ | .double _ | .constant _ | .hole _ => []
  | .signed _ operand => bases operand
  | .binary op left right => (base? op left).toList ++ bases left ++ bases right
  | .call _ args => allBases args

/-- The holes of several formulas that are the base of a power. -/
def allBases : List (Formula Hole) → List Hole
  | [] => []
  | f :: rest => bases f ++ allBases rest

end

variable {value : Hole → Int}

/-- **Where no negative integer is put at the base of a power**, the settled formula is the formula
with an integer for each hole. -/
theorem toExpr_settle (f : Formula Hole) (hbases : ∀ h ∈ f.bases, 0 ≤ value h) :
    (f.settle value).toExpr Empty.elim
      = f.toExpr fun h => (ofInt (value h)).toExpr Empty.elim := by
  induction f using Formula.induct with
  | numeral | double | constant => rw [settle, toExpr, toExpr]
  | hole h => rw [settle, toExpr.eq_4]
  | signed op operand ih =>
    rw [bases] at hbases
    rw [settle, toExpr, toExpr, ih hbases]
  | binary op left right hleft hright =>
    simp only [bases, List.mem_append, Option.mem_toList] at hbases
    have hbase : (base? op left).filter (fun h => value h < 0) = none := by
      refine Option.filter_eq_none_iff.mpr fun h hh => ?_
      simpa using hbases h (.inl (.inl hh))
    rw [settle, hbase, toExpr, toExpr, hleft fun h hh => hbases h (.inl (.inr hh)),
      hright fun h hh => hbases h (.inr hh)]
  | call g fs ih =>
    rw [bases] at hbases
    rw [settle, toExpr, toExpr]
    congr 1
    induction fs with
    | nil => rw [settleAll, toExprs, toExprs]
    | cons f rest ihs =>
      obtain ⟨hf, hrest⟩ := List.forall_mem_cons.mp ih
      simp only [allBases, List.mem_append] at hbases
      rw [settleAll, toExprs, toExprs, hf fun h hh => hbases h (.inl hh),
        ihs hrest fun h hh => hbases h (.inr hh)]

end Formula

/-! ## Tokens -/

/-- The tokens of a lexeme when a hole is replaced by the text of an integer. -/
def Lexeme.settle {Hole : Type} (value : Hole → Int) : Lexeme Hole → List Token
  | .token t => [t]
  | .hole h => Token.ofInt (value h)

namespace Formula

variable {Hole : Type} {value : Hole → Int}

/-- Settling a formula changes its strength only if it is a hole for a negative integer, which
becomes a signed number. -/
theorem strength_settle {f : Formula Hole} {place : Strength}
    (hplace : ∀ h, f = .hole h → 0 ≤ value h ∨ place ≠ .atom) :
    (f.settle value).strength.rank < place.rank ↔ f.strength.rank < place.rank := by
  cases f with
  | hole h =>
    rw [settle, ofInt]
    split
    case isTrue hneg =>
      have hatom := (hplace h rfl).resolve_left (Int.not_le.mpr hneg)
      cases place with
      | atom => exact absurd rfl hatom
      | whole | sum | product | factor => simp [strength, Strength.rank]
    case isFalse => rfl
  | binary op left right =>
    rw [settle]
    split
    case h_1 h found =>
      obtain ⟨rfl, rfl⟩ := base?_eq_some.mp (Option.filter_eq_some_iff.mp found).1
      rfl
    case h_2 => rfl
  | numeral | double | constant | signed | call => rw [settle]; rfl

/-- What holds between parentheses, or without them, holds of a formula in its place. -/
theorem tokens_settle_of_body {f : Formula Hole}
    (hbody : (f.body sparing).flatMap (Lexeme.settle value)
      = ((f.settle value).body sparing).map Lexeme.closed) {place : Strength}
    (hplace : ∀ h, f = .hole h → 0 ≤ value h ∨ place ≠ .atom) :
    (f.lexemes sparing place).flatMap (Lexeme.settle value)
      = (f.settle value).tokens sparing place := by
  simp only [lexemes, tokens, enclosed, sparing, Bool.or_false, decide_eq_true_eq,
    strength_settle hplace]
  split
  case isTrue =>
    simp [Lexeme.settle, Lexeme.closed, hbody]
  case isFalse => exact hbody

theorem argumentBodies_settle {fs : List (Formula Hole)}
    (hfs : ∀ f ∈ fs, (f.lexemes sparing .whole).flatMap (Lexeme.settle value)
      = (f.settle value).tokens sparing .whole) :
    (argumentBodies sparing fs).flatMap (Lexeme.settle value)
      = (argumentBodies sparing (settleAll value fs)).map Lexeme.closed := by
  induction fs with
  | nil => rfl
  | cons f others ih =>
    obtain ⟨hf, hothers⟩ := List.forall_mem_cons.mp hfs
    simp only [lexemes, tokens] at hf
    cases others with
    | nil => simpa [argumentBodies, settleAll] using hf
    | cons g others =>
      have hmore := ih hothers
      simp only [settleAll] at hmore ⊢
      simp only [argumentBodies, List.flatMap_append, List.flatMap_cons, List.map_append,
        List.map_cons, hf, hmore]
      rfl

/-- **Replacing the holes of a written formula gives the written settled formula**, token by token.
Only in the place of an atom the number has to be one. -/
theorem tokens_settle (f : Formula Hole) (place : Strength)
    (hplace : ∀ h, f = .hole h → 0 ≤ value h ∨ place ≠ .atom) :
    (f.lexemes sparing place).flatMap (Lexeme.settle value)
      = (f.settle value).tokens sparing place := by
  induction f using Formula.induct generalizing place with
  | numeral | double | constant => exact tokens_settle_of_body rfl hplace
  | hole h =>
    refine tokens_settle_of_body ?_ hplace
    rw [settle, ofInt, body, List.flatMap_singleton, Lexeme.settle, Token.ofInt]
    split
    case isTrue => rfl
    case isFalse => rfl
  | signed op operand ih =>
    refine tokens_settle_of_body ?_ hplace
    -- A number may be negative everywhere but in the place of an atom, and this is another one.
    have hoperand := ih .factor fun _ _ => .inr (by decide)
    simp only [lexemes, tokens] at hoperand
    simp only [settle, body, List.flatMap_cons, List.map_cons, hoperand]
    rfl
  | binary op left right hleft hright =>
    refine tokens_settle_of_body ?_ hplace
    have hr := hright op.rightPlace fun _ _ => .inr (by cases op <;> decide)
    simp only [lexemes, tokens] at hr
    rw [settle]
    split
    case h_1 h found =>
      -- The number falls apart: its minus stands in front of the power, its digits are the base.
      obtain ⟨hbase, hneg⟩ := Option.filter_eq_some_iff.mp found
      obtain ⟨rfl, rfl⟩ := base?_eq_some.mp hbase
      have hminus : Token.ofInt (value h) = [.symbol .minus, .number (.int (value h).natAbs)] :=
        if_pos (of_decide_eq_true hneg)
      simp only [body, List.flatMap_append, List.flatMap_cons, hr]
      show Token.ofInt (value h) ++ [] ++ .symbol .doubleStar :: (_ : List Token) = _
      rw [hminus]
      rfl
    case h_2 found =>
      have hl := hleft op.leftPlace fun h hh => by
        by_cases hop : op = .power
        · have hnone := Option.filter_eq_none_iff.mp found h (base?_eq_some.mpr ⟨hop, hh⟩)
          exact .inl (by simpa using hnone)
        · exact .inr (by cases op <;> first | decide | exact absurd rfl hop)
      simp only [lexemes, tokens] at hl
      simp only [body, List.flatMap_append, List.flatMap_cons, List.map_append, List.map_cons, hl,
        hr]
      rfl
  | call g fs ih =>
    refine tokens_settle_of_body ?_ hplace
    have hargs := argumentBodies_settle fun f hf => ih f hf .whole fun _ _ => .inr (by decide)
    simp [settle, body, hargs, Lexeme.settle, Lexeme.closed]

end Formula

end Formulary
