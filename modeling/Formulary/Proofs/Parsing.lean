/-
Formulary.Proofs.Parsing — the tokens of a formula are read as the formula.

The grammar has one rule for each strength of operators, and each rule calls the next stronger one.
`ReadsAt` says that the rule for a place reads some tokens as one expression, whatever stands behind
them, as long as that cannot go on with the expression (`Stops`). At the places of sums and products
the rule does not stop there: operators of equal strength associate to the left, so the rule goes on
in its loop with the expression as left operand, and `ReadsAt` says just that.

What is read at one place is read at all weaker ones, and what stands in parentheses is read at
every place. With these two facts the reading of a formula is an induction over it.
-/
import Formulary.Proofs.Formula

namespace Formulary.Grammar

/-! ## Places -/

/-- What may stand behind an expression in a place: nothing, a closing parenthesis, a comma, or an
operator that binds more loosely than the place asks for. -/
def Stops (place : Strength) : List Token → Prop
  | [] => True
  | .symbol mark :: _ =>
    mark = .closeParen ∨ mark = .comma ∨
      ∃ op : BinaryOp, mark = op.symbol ∧ op.strength.rank < place.rank
  | _ => False

/-- The tokens are read as the expression by the rule for a place, with anything behind them that
stops there. In a chain of operators the rule goes on behind the expression with at least as many
rounds as there are tokens left. -/
def ReadsAt (recur : Recursion) (ts : List Token) (e : Expr) : Strength → Prop
  | .atom => ∀ rest, Stops .atom rest → primary recur (ts ++ rest) = some (e, rest)
  | .factor => ∀ rest, Stops .factor rest → factor recur (ts ++ rest) = some (e, rest)
  | .product => ∀ rest, Stops .factor rest → ∃ n, rest.length ≤ n ∧
      product recur (ts ++ rest) = chainFrom productOperator? (factor recur) n e rest
  | .sum => ∀ rest, Stops .product rest → ∃ n, rest.length ≤ n ∧
      sum recur (ts ++ rest) = chainFrom sumOperator? (product recur) n e rest
  | .whole => ∀ rest, Stops .whole rest → expression recur (ts ++ rest) = some (e, rest)

theorem Stops.mono {place stronger : Strength} (hrank : place.rank ≤ stronger.rank)
    {ts : List Token} (h : Stops place ts) : Stops stronger ts := by
  cases ts with
  | nil => exact h
  | cons t rest =>
    cases t with
    | symbol mark =>
      rcases h with hclose | hcomma | ⟨op, hmark, hop⟩
      · exact .inl hclose
      · exact .inr (.inl hcomma)
      · exact .inr (.inr ⟨op, hmark, Nat.lt_of_lt_of_le hop hrank⟩)
    | number | name | keyword | quotation | lineEnd => exact h.elim

/-- What stops at a place begins with a symbol, if it begins with anything. -/
theorem Stops.eq_symbol {place : Strength} {t : Token} {ts : List Token}
    (h : Stops place (t :: ts)) : ∃ mark, t = .symbol mark ∧ (mark = .closeParen ∨ mark = .comma ∨
      ∃ op : BinaryOp, mark = op.symbol ∧ op.strength.rank < place.rank) := by
  cases t with
  | symbol mark => exact ⟨mark, rfl, h⟩
  | number | name | keyword | quotation | lineEnd => exact h.elim

/-- The operators themselves stop every place that they are too weak for. -/
theorem stops_operator {place : Strength} {op : BinaryOp} (h : op.strength.rank < place.rank)
    (ts : List Token) : Stops place (.symbol op.symbol :: ts) :=
  .inr (.inr ⟨op, rfl, h⟩)

theorem stops_closeParen (place : Strength) (ts : List Token) :
    Stops place (.symbol .closeParen :: ts) :=
  .inl rfl

theorem stops_comma (place : Strength) (ts : List Token) : Stops place (.symbol .comma :: ts) :=
  .inr (.inl rfl)

/-! ## From a rule to the weaker ones -/

variable {recur : Recursion} {ts rest : List Token} {e : Expr}

/-- Behind a primary expression no trailer follows. -/
theorem trailers_stop (n : Nat) (h : Stops .atom rest) :
    trailers recur n e rest = some (e, rest) := by
  cases rest with
  | nil => cases n <;> rfl
  | cons t ts =>
    obtain ⟨mark, rfl, rfl | rfl | ⟨op, rfl, -⟩⟩ := h.eq_symbol
    · cases n <;> rfl
    · cases n <;> rfl
    · cases n <;> cases op <;> rfl

/-- What stands behind a primary expression: an exponent makes it a power. -/
def powerBehind (recur : Recursion) (base : Expr) : Rule
  | .symbol .doubleStar :: ts => do
    let (exponent, ts) ← recur .factor ts
    some (.binary .power base exponent, ts)
  | ts => some (base, ts)

/-- A factor that begins with a primary expression is that expression or a power of it: no sign can
stand in front. -/
theorem factor_eq_of_primary (h : primary recur ts = some (e, rest)) :
    factor recur ts = powerBehind recur e rest := by
  have hawaited : awaited recur ts = some (e, rest) := by
    rw [awaited.eq_def]
    split
    · cases h
    · exact h
  have hpower : factor recur ts = power recur ts := by
    rw [factor.eq_def]
    split
    · cases h
    · cases h
    · cases h
    · rfl
  rw [hpower, power, hawaited]
  rfl

/-- Without a power behind it, a primary expression is a factor by itself. -/
theorem factor_of_primary (h : primary recur ts = some (e, rest)) (hrest : Stops .factor rest) :
    factor recur ts = some (e, rest) := by
  rw [factor_eq_of_primary h]
  cases rest with
  | nil => rfl
  | cons t ts =>
    obtain ⟨mark, rfl, rfl | rfl | ⟨op, rfl, hop⟩⟩ := hrest.eq_symbol
    · rfl
    · rfl
    · cases op <;> first | rfl | exact absurd hop (by decide)

/-- A chain begins with its first operand. -/
theorem chain_of_operand {operator? : Token → Option (Expr → Expr → Expr)} {operand : Rule}
    (h : operand ts = some (e, rest)) :
    chain operator? operand ts = chainFrom operator? operand rest.length e rest := by
  rw [chain, h]
  rfl

/-- A chain ends before a token that is no operator of it. -/
theorem chainFrom_stop {operator? : Token → Option (Expr → Expr → Expr)} {operand : Rule} (n : Nat)
    (h : ∀ t ∈ rest.head?, operator? t = none) :
    chainFrom operator? operand n e rest = some (e, rest) := by
  cases rest with
  | nil => cases n <;> rfl
  | cons t ts =>
    cases n with
    | zero => rfl
    | succ n => rw [chainFrom, h t rfl]

/-- A chain goes on behind one of its operators. -/
theorem chainFrom_operator {operator? : Token → Option (Expr → Expr → Expr)} {operand : Rule}
    {n : Nat} {t : Token} {combine : Expr → Expr → Expr} {right : Expr}
    (ht : operator? t = some combine) (hright : operand ts = some (right, rest)) :
    chainFrom operator? operand (n + 1) e (t :: ts)
      = chainFrom operator? operand n (combine e right) rest := by
  rw [chainFrom, ht]
  simp only
  rw [hright]
  rfl

/-- A chain that has been read up to one of its operators goes on behind the operand on the right of
it. -/
theorem chain_goes_on {operator? : Token → Option (Expr → Expr → Expr)} {operand whole : Rule}
    {us : List Token} {t : Token} {combine : Expr → Expr → Expr} {left right : Expr}
    (ht : operator? t = some combine) (hright : operand (us ++ rest) = some (right, rest))
    (hleft : ∃ n, (t :: (us ++ rest)).length ≤ n ∧
      whole (ts ++ t :: (us ++ rest)) = chainFrom operator? operand n left (t :: (us ++ rest))) :
    ∃ n, rest.length ≤ n ∧
      whole (ts ++ t :: us ++ rest) = chainFrom operator? operand n (combine left right) rest := by
  obtain ⟨n, hn, hread⟩ := hleft
  cases n with
  | zero => simp at hn
  | succ n =>
    rw [chainFrom_operator ht hright] at hread
    refine ⟨n, ?_, ?_⟩
    · simp only [List.length_cons, List.length_append] at hn
      omega
    · rw [List.append_assoc]
      exact hread

/-- Behind a product, no operator of its strength follows. -/
theorem productOperator?_stop (h : Stops .product rest) :
    ∀ t ∈ rest.head?, productOperator? t = none := by
  cases rest with
  | nil => exact nofun
  | cons t ts =>
    rintro _ ⟨⟩
    obtain ⟨mark, rfl, rfl | rfl | ⟨op, rfl, hop⟩⟩ := h.eq_symbol
    · rfl
    · rfl
    · cases op <;> first | rfl | exact absurd hop (by decide)

/-- Behind a whole expression, no operator follows that could go on with it. -/
theorem Stops.whole_cases (h : Stops .whole rest) :
    rest = [] ∨ ∃ ts, rest = .symbol .closeParen :: ts ∨ rest = .symbol .comma :: ts := by
  cases rest with
  | nil => exact .inl rfl
  | cons t ts =>
    obtain ⟨mark, rfl, rfl | rfl | ⟨op, rfl, hop⟩⟩ := h.eq_symbol
    · exact .inr ⟨ts, .inl rfl⟩
    · exact .inr ⟨ts, .inr rfl⟩
    · exact absurd hop (Nat.not_lt_zero _)

/-- A sum with nothing behind it that goes on is an expression by itself. -/
theorem expression_of_sum (h : sum recur ts = some (e, rest)) (hrest : Stops .whole rest) :
    expression recur ts = some (e, rest) := by
  have hstop : ∀ (operator? : Token → Option (Expr → Expr → Expr)) (operand : Rule) (n : Nat),
      operator? (.symbol .closeParen) = none → operator? (.symbol .comma) = none →
      chainFrom operator? operand n e rest = some (e, rest) := by
    intro operator? operand n hclose hcomma
    apply chainFrom_stop n
    intro t ht
    obtain rfl | ⟨ts, rfl | rfl⟩ := hrest.whole_cases
    · cases ht
    · cases ht; exact hclose
    · cases ht; exact hcomma
  -- Each level of the grammar between a sum and an expression hands the sum on, because none of its
  -- operators follows.
  have hbits : bitwiseOr recur ts = some (e, rest) := by
    have hshift := (chain_of_operand h).trans (hstop shiftOperator? _ _ rfl rfl)
    have hand := (chain_of_operand hshift).trans (hstop bitwiseAndOperator? _ _ rfl rfl)
    exact (chain_of_operand hand).trans (hstop bitwiseOrOperator? _ _ rfl rfl)
  have hcomparison : comparison recur ts = some (e, rest) := by
    rw [comparison, hbits]
    obtain rfl | ⟨ts, rfl | rfl⟩ := hrest.whole_cases <;> rfl
  have hinversion : inversion recur ts = some (e, rest) := by
    rw [inversion.eq_def]
    split
    · cases h
    · exact hcomparison
  have hand : boolean .andWord (inversion recur) ts = some (e, rest) := by
    rw [boolean, hinversion]
    obtain rfl | ⟨ts, rfl | rfl⟩ := hrest.whole_cases <;> rfl
  have hor : disjunction recur ts = some (e, rest) := by
    rw [disjunction, boolean, hand]
    obtain rfl | ⟨ts, rfl | rfl⟩ := hrest.whole_cases <;> rfl
  rw [expression.eq_def]
  split
  · cases h
  · rw [hor]
    obtain rfl | ⟨ts, rfl | rfl⟩ := hrest.whole_cases <;> rfl

/-- Behind a sum, nothing goes on with it: what stops a whole expression is no operator. -/
theorem sumOperator?_stop (h : Stops .whole rest) : ∀ t ∈ rest.head?, sumOperator? t = none := by
  obtain rfl | ⟨ts, rfl | rfl⟩ := h.whole_cases
  · exact nofun
  · rintro _ ⟨⟩; rfl
  · rintro _ ⟨⟩; rfl

/-! ## Reading in a weaker place -/

theorem ReadsAt.factor_of_atom (h : ReadsAt recur ts e .atom) : ReadsAt recur ts e .factor := by
  intro rest hrest
  have hprimary := h rest (hrest.mono (by decide))
  exact factor_of_primary hprimary hrest

theorem ReadsAt.product_of_factor (h : ReadsAt recur ts e .factor) :
    ReadsAt recur ts e .product := by
  intro rest hrest
  exact ⟨rest.length, Nat.le_refl _, chain_of_operand (h rest hrest)⟩

/-- A product is read to its end when no operator of its strength follows. -/
theorem ReadsAt.product_eq (h : ReadsAt recur ts e .product) (hrest : Stops .product rest) :
    product recur (ts ++ rest) = some (e, rest) := by
  obtain ⟨n, -, hread⟩ := h rest (hrest.mono (by decide))
  exact hread.trans (chainFrom_stop n (productOperator?_stop hrest))

theorem ReadsAt.sum_of_product (h : ReadsAt recur ts e .product) : ReadsAt recur ts e .sum := by
  intro rest hrest
  exact ⟨rest.length, Nat.le_refl _, chain_of_operand (h.product_eq hrest)⟩

theorem ReadsAt.whole_of_sum (h : ReadsAt recur ts e .sum) : ReadsAt recur ts e .whole := by
  intro rest hrest
  obtain ⟨n, -, hread⟩ := h rest (hrest.mono (by decide))
  exact expression_of_sum (hread.trans (chainFrom_stop n (sumOperator?_stop hrest))) hrest

/-- What is read in one place is read in every weaker one. -/
theorem ReadsAt.weaken {place : Strength} (h : ReadsAt recur ts e place) (weaker : Strength)
    (hrank : weaker.rank ≤ place.rank) : ReadsAt recur ts e weaker := by
  -- Every step goes from one place to the next weaker one; the others are chains of steps.
  have hsum : ReadsAt recur ts e .sum → ReadsAt recur ts e .whole := whole_of_sum
  have hproduct : ReadsAt recur ts e .product → ReadsAt recur ts e .sum := sum_of_product
  have hfactor : ReadsAt recur ts e .factor → ReadsAt recur ts e .product := product_of_factor
  have hatom : ReadsAt recur ts e .atom → ReadsAt recur ts e .factor := factor_of_atom
  cases place <;> cases weaker <;> first | exact absurd hrank (by decide) | simp_all

/-! ## Reading operations -/

/-- A sign in front of a factor makes a factor. -/
theorem ReadsAt.signed {d : Nat} (op : UnaryOp) (h : ReadsAt (parse d) ts e .factor) :
    ReadsAt (parse (d + 1)) (.symbol op.symbol :: ts) (.unary op e) .factor := by
  intro rest hrest
  have hoperand : parse (d + 1) .factor (ts ++ rest) = some (e, rest) := h rest hrest
  cases op with
  | plus | minus =>
    simp only [UnaryOp.symbol, List.cons_append]
    rw [Grammar.factor, hoperand]
    rfl

/-- An atom to the power of a factor is a factor. -/
theorem ReadsAt.power {d : Nat} {us : List Token} {base exponent : Expr}
    (hbase : ReadsAt (parse (d + 1)) ts base .atom)
    (hexponent : ReadsAt (parse d) us exponent .factor) :
    ReadsAt (parse (d + 1)) (ts ++ .symbol .doubleStar :: us) (.binary .power base exponent)
      .factor := by
  intro rest hrest
  have hoperand : parse (d + 1) .factor (us ++ rest) = some (exponent, rest) := hexponent rest hrest
  have hstops : Stops .atom (.symbol BinaryOp.power.symbol :: (us ++ rest)) :=
    stops_operator (by decide) _
  have hprimary := hbase (.symbol .doubleStar :: us ++ rest) hstops
  rw [List.append_assoc, factor_eq_of_primary hprimary]
  simp only [List.cons_append, powerBehind, hoperand]
  rfl

/-- A product goes on with an operator of its strength and a factor. -/
theorem ReadsAt.product_operator {op : BinaryOp} (hop : op.strength = .product) {us : List Token}
    {left right : Expr} (hleft : ReadsAt recur ts left .product)
    (hright : ReadsAt recur us right .factor) :
    ReadsAt recur (ts ++ .symbol op.symbol :: us) (.binary op left right) .product := by
  intro rest hrest
  have hcombine : productOperator? (.symbol op.symbol) = some (.binary op) := by
    cases op <;> first | rfl | cases hop
  have hstops : Stops .factor (.symbol op.symbol :: (us ++ rest)) :=
    stops_operator (by rw [hop]; decide) _
  exact chain_goes_on hcombine (hright rest hrest) (hleft _ hstops)

/-- A sum goes on with an operator of its strength and a product. -/
theorem ReadsAt.sum_operator {op : BinaryOp} (hop : op.strength = .sum) {us : List Token}
    {left right : Expr} (hleft : ReadsAt recur ts left .sum)
    (hright : ReadsAt recur us right .product) :
    ReadsAt recur (ts ++ .symbol op.symbol :: us) (.binary op left right) .sum := by
  intro rest hrest
  have hcombine : sumOperator? (.symbol op.symbol) = some (.binary op) := by
    cases op <;> first | rfl | cases hop
  have hstops : Stops .product (.symbol op.symbol :: (us ++ rest)) :=
    stops_operator (by rw [hop]; decide) _
  exact chain_goes_on hcombine (hright.product_eq hrest) (hleft _ hstops)

/-! ## Parentheses and arguments -/

/-- A name that is read as a whole expression is not the target of a binding or a keyword. -/
theorem not_binding (h : expression recur ts = some (e, rest)) (hrest : Stops .whole rest)
    {id : Text} {mark : Symbol} {behind : List Token}
    (hmark : mark = .walrus ∨ mark = .assign) : ts ≠ .name id :: .symbol mark :: behind := by
  rintro rfl
  rcases hmark with rfl | rfl
  · cases h
    exact absurd hrest.whole_cases (by simp)
  · cases h
    exact absurd hrest.whole_cases (by simp)

/-- An expression that is no binding is read as it is. -/
theorem named_of_expression {d : Nat} (h : expression (parse d) ts = some (e, rest))
    (hrest : Stops .whole rest) : named (parse (d + 1)) ts = some (e, rest) := by
  rw [named.eq_def]
  split
  · exact absurd rfl (not_binding h hrest (.inl rfl))
  · exact h

/-- What is read as a whole expression is an atom when it stands in parentheses. -/
theorem ReadsAt.parentheses {d : Nat} (h : ReadsAt (parse d) ts e .whole)
    (he : e.isStarred = false) :
    ReadsAt (parse (d + 1)) (.symbol .openParen :: ts ++ [.symbol .closeParen]) e .atom := by
  intro rest hrest
  have hinner : expression (parse d) (ts ++ .symbol .closeParen :: rest)
      = some (e, .symbol .closeParen :: rest) := h _ (stops_closeParen _ _)
  have helement : element (parse (d + 1)) (ts ++ .symbol .closeParen :: rest)
      = some (e, .symbol .closeParen :: rest) := by
    have hnamed := named_of_expression hinner (stops_closeParen _ _)
    generalize ts ++ Token.symbol .closeParen :: rest = inner at hinner hnamed
    rw [element.eq_def]
    split
    · cases hinner
    · exact hnamed
  have hgroup : group (parse (d + 1)) (ts ++ .symbol .closeParen :: rest) = some (e, rest) := by
    generalize ts ++ Token.symbol .closeParen :: rest = inner at hinner helement
    rw [group.eq_def]
    split
    · cases hinner
    · cases hinner
    · cases hinner
    · cases hinner
    · rw [helement]
      simp only [bind, Option.bind, he]
      rfl
  have hatom : atom (parse (d + 1)) (.symbol .openParen :: ts ++ [.symbol .closeParen] ++ rest)
      = some (e, rest) := by
    rw [List.append_assoc]
    exact hgroup
  rw [primary, hatom]
  exact trailers_stop _ hrest

/-- What can stand behind a positional argument: the end of the arguments, or a comma and more of
them. -/
def argumentsBehind (recur : Recursion) (count : Nat) : Reading Arguments
  | .symbol .closeParen :: ts => some (⟨[], []⟩, ts)
  | .symbol .comma :: ts => arguments recur count .positional ts
  | _ => none

/-- A positional argument is read by the rule for a whole expression. -/
theorem arguments_of_expression {d : Nat} (count : Nat) {phase : ArgumentPhase}
    (hphase : phase = .first ∨ phase = .positional)
    (h : expression (parse d) ts = some (e, rest)) (hrest : Stops .whole rest) :
    arguments (parse (d + 1)) (count + 1) phase ts =
      (argumentsBehind (parse (d + 1)) count rest).bind fun (more, ts) =>
        some ({ more with positional := e :: more.positional }, ts) := by
  have hnamed := named_of_expression h hrest
  have hclause : comprehension (parse (d + 1)) .generator [e] .closeParen rest
      = some (none, rest) := by
    obtain rfl | ⟨ts, rfl | rfl⟩ := hrest.whole_cases <;> rfl
  rw [arguments.eq_def]
  simp only
  split
  · cases h
  · cases h
  · exact absurd rfl (not_binding h hrest (.inr rfl))
  · cases h
  · rw [hnamed]
    rcases hphase with rfl | rfl
    · simp only [reduceCtorEq, or_self, if_false, bind, Option.bind, if_true, hclause]
      rfl
    · simp only [reduceCtorEq, or_self, if_false, bind, Option.bind]
      rfl

/-! ## Formulas -/

open Formula

variable {extra : Strength → Formula Empty → Bool} {f : Formula Empty} {d : Nat}

/-- A formula is read in a place as soon as it is read, without parentheses around it, in the place
of its own strength. Each pair of parentheses costs one round of the recursion. -/
theorem readsAt_tokens_of_body
    (hbody : ∀ d, (f.body extra).length ≤ d →
      ReadsAt (parse d) ((f.body extra).map Lexeme.closed) (f.toExpr Empty.elim) f.strength)
    (place : Strength) (hd : (f.tokens extra place).length ≤ d) :
    ReadsAt (parse d) (f.tokens extra place) (f.toExpr Empty.elim) place := by
  have hstarred : (f.toExpr Empty.elim).isStarred = false := by
    cases f with
    | hole h => exact h.elim
    | numeral | double | constant | signed | binary | call => rw [toExpr]; rfl
  rw [tokens, lexemes, enclosed] at hd ⊢
  split at hd
  case isTrue hneeded =>
    rw [if_pos hneeded]
    cases d with
    | zero => simp at hd
    | succ d =>
      have hlength : (f.body extra).length ≤ d := by
        simp at hd
        omega
      -- Between parentheses any strength will do, and the parentheses make an atom of it.
      have hwhole := (hbody d hlength).weaken .whole (Nat.zero_le _)
      have hatom := hwhole.parentheses hstarred
      simpa [Lexeme.closed] using hatom.weaken place (by cases place <;> decide)
  case isFalse hneeded =>
    rw [if_neg hneeded]
    have hrank : place.rank ≤ f.strength.rank := by
      simp only [Bool.or_eq_true, decide_eq_true_eq, not_or, Nat.not_lt] at hneeded
      exact hneeded.1
    exact (hbody d (by simpa using hd)).weaken place hrank

/-- The arguments of a call are read up to the closing parenthesis, if each of them is read. -/
theorem arguments_read {fs : List (Formula Empty)}
    (hread : ∀ f ∈ fs, ∀ d, (f.tokens extra .whole).length ≤ d →
      ReadsAt (parse d) (f.tokens extra .whole) (f.toExpr Empty.elim) .whole)
    (hd : (argumentBodies extra fs).length ≤ d) (count : Nat)
    (hcount : (argumentBodies extra fs).length < count) {phase : ArgumentPhase}
    (hphase : phase = .first ∨ phase = .positional) (rest : List Token) :
    arguments (parse (d + 1)) count phase
        ((argumentBodies extra fs).map Lexeme.closed ++ .symbol .closeParen :: rest)
      = some (⟨toExprs Empty.elim fs, []⟩, rest) := by
  induction fs generalizing count phase with
  | nil =>
    obtain ⟨count, rfl⟩ := Nat.exists_eq_add_of_lt hcount
    rw [argumentBodies, toExprs]
    rfl
  | cons f others ih =>
    obtain ⟨hf, hothers⟩ := List.forall_mem_cons.mp hread
    cases count with
    | zero => exact absurd hcount (Nat.not_lt_zero _)
    | succ count =>
      cases others with
      | nil =>
        have hlength : (f.tokens extra .whole).length ≤ d := by
          simpa [argumentBodies, tokens, lexemes] using hd
        have hlast := arguments_of_expression count hphase
          (hf d hlength _ (stops_closeParen _ rest)) (stops_closeParen _ rest)
        simpa only [argumentBodies, toExprs, tokens, lexemes, argumentsBehind, Option.bind_some]
          using hlast
      | cons g others =>
        simp only [argumentBodies, List.length_append, List.length_cons] at hd hcount
        have hlength : (f.tokens extra .whole).length ≤ d := by
          simp only [tokens, lexemes, List.length_map]
          omega
        have hmore := ih hothers (by omega) count (by omega) (.inr rfl)
        have hfirst := arguments_of_expression count hphase
          (hf d hlength _ (stops_comma _ ((argumentBodies extra (g :: others)).map Lexeme.closed
            ++ .symbol .closeParen :: rest))) (stops_comma _ _)
        rw [argumentsBehind, hmore] at hfirst
        simpa only [argumentBodies, toExprs, tokens, lexemes, List.map_append, List.map_cons,
          List.append_assoc, List.cons_append, Lexeme.closed, Option.bind_some] using hfirst

/-- A call is an atom: its name, and the arguments in parentheses. -/
theorem readsAt_call (g : Function) {fs : List (Formula Empty)}
    (hread : ∀ f ∈ fs, ∀ d, (f.tokens extra .whole).length ≤ d →
      ReadsAt (parse d) (f.tokens extra .whole) (f.toExpr Empty.elim) .whole)
    (hd : ((call g fs).body extra).length ≤ d) :
    ReadsAt (parse d) (((call g fs).body extra).map Lexeme.closed) ((call g fs).toExpr Empty.elim)
      .atom := by
  intro rest hrest
  simp only [body, List.length_append, List.length_cons, List.length_nil] at hd
  cases d with
  | zero => omega
  | succ d =>
    have hbodies : (argumentBodies extra fs).length ≤ d := by omega
    have harguments := arguments_read hread hbodies
      ((argumentBodies extra fs).map Lexeme.closed ++ .symbol .closeParen :: rest).length
      (by simp) (.inl rfl) rest
    simp only [body, toExpr, List.map_append, List.map_cons, List.map_nil, Lexeme.closed,
      List.append_assoc, List.cons_append, List.nil_append]
    rw [primary]
    simp only [atom, bind, Option.bind, List.length_cons]
    rw [trailers]
    simp only [harguments, bind, Option.bind]
    exact trailers_stop _ hrest

/-- **The tokens of a formula are read as the formula**, in every place and with any choice of extra
parentheses, if the recursion has as many rounds as there are tokens. -/
theorem readsAt_tokens (extra : Strength → Formula Empty → Bool) (f : Formula Empty)
    (place : Strength) {d : Nat} (hd : (f.tokens extra place).length ≤ d) :
    ReadsAt (parse d) (f.tokens extra place) (f.toExpr Empty.elim) place := by
  induction f using Formula.induct generalizing place d with
  | numeral | double | constant =>
    refine readsAt_tokens_of_body ?_ place hd
    intro d _ rest hrest
    rw [toExpr]
    exact trailers_stop _ hrest
  | hole h => exact h.elim
  | signed op operand ih =>
    refine readsAt_tokens_of_body ?_ place hd
    intro d hd
    cases d with
    | zero => simp [body] at hd
    | succ d =>
      have hoperand := ih .factor (d := d) (by simpa [tokens, lexemes, body] using hd)
      simpa only [toExpr, body, Formula.strength, List.map_cons, Lexeme.closed, tokens, lexemes]
        using hoperand.signed op
  | binary op left right hleft hright =>
    refine readsAt_tokens_of_body ?_ place hd
    intro d hd
    simp only [body, List.length_append, List.length_cons] at hd
    have hlength : (left.tokens extra op.leftPlace).length + 1
        + (right.tokens extra op.rightPlace).length ≤ d := by
      simp only [tokens, lexemes, List.length_map]
      omega
    have hl := hleft op.leftPlace (d := d) (by omega)
    -- The exponent of a power is read one round deeper, all other operands in the same round.
    have hr : ∀ {d'}, d ≤ d' + 1 → ReadsAt (parse d') (right.tokens extra op.rightPlace)
        (right.toExpr Empty.elim) op.rightPlace := fun h => hright op.rightPlace (by omega)
    simp only [toExpr, body, List.map_append, List.map_cons, Lexeme.closed]
    cases op with
    | add | subtract => exact hl.sum_operator rfl (hr (by omega))
    | multiply | divide | floorDivide | modulo => exact hl.product_operator rfl (hr (by omega))
    | power =>
      cases d with
      | zero => omega
      | succ d => exact hl.power (hr (by omega))
  | call g fs ih =>
    refine readsAt_tokens_of_body ?_ place hd
    intro d hd
    apply readsAt_call g _ hd
    intro f hf d hd
    exact ih f hf .whole hd

/-- The tokens of a formula by themselves are the formula. -/
theorem ofTokens?_tokens (extra : Strength → Formula Empty → Bool) (f : Formula Empty) {depth : Nat}
    (hdepth : (f.tokens extra .whole).length < depth) :
    ofTokens? depth (f.tokens extra .whole) = some (f.toExpr Empty.elim) := by
  obtain ⟨d, rfl⟩ := Nat.exists_eq_add_of_lt hdepth
  have hread : parse ((f.tokens extra .whole).length + d + 1) .expression (f.tokens extra .whole)
      = some (f.toExpr Empty.elim, []) := by
    have hwhole := readsAt_tokens extra f .whole (Nat.le_add_right _ d) [] trivial
    rwa [List.append_nil] at hwhole
  rw [ofTokens?, items, hread]
  rfl

end Formulary.Grammar
