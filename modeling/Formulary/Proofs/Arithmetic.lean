/-
Formulary.Proofs.Arithmetic — arithmetic is written with the tokens of arithmetic.

An expression with a value is arithmetic down to its leaves: numbers, names, signs, operators and
calls with plain arguments. The grammar reads much more than that, and none of the rules looks for
braces, quotations or brackets in order to refuse them. What keeps them out is that each rule that
steps over such a token makes a foreign node of what it has read, and that a node above a foreign
one is not arithmetic either.

A rule is called `Faithful` if it keeps to this: where it reads an arithmetic expression, it has
stepped over tokens of arithmetic only. Every rule is faithful if the places where it recurs are,
and so the whole grammar is, by induction on the depth of the recursion.
-/
import Formulary.Proofs.Evaluating
import Formulary.Proofs.Parsing

namespace Formulary

/-! ## Arithmetic -/

/-- The expression consists of numbers, names, signs, operators and calls of names with plain
positional arguments. -/
inductive Expr.IsArithmetic : Expr → Prop
  | int (n : Nat) : IsArithmetic (.literal (.int n))
  | float (x : Float) : IsArithmetic (.literal (.float x))
  | name (id : Text) : IsArithmetic (.name id)
  | unary (op : UnaryOp) {operand : Expr} :
      IsArithmetic operand → IsArithmetic (.unary op operand)
  | binary (op : BinaryOp) {left right : Expr} :
      IsArithmetic left → IsArithmetic right → IsArithmetic (.binary op left right)
  | call (id : Text) {args : List Expr} :
      (∀ a ∈ args, IsArithmetic a) → IsArithmetic (.call (.name id) args [])

/-- An expression with a value is arithmetic. -/
theorem Expr.isArithmetic_of_eval_ok {limit : Int} :
    ∀ {e : Expr} {x : Float}, e.eval limit = .ok x → e.IsArithmetic
  | .literal value, x, h => by
    rcases eval_literal_ok h with ⟨n, rfl⟩ | ⟨y, rfl⟩
    · exact .int n
    · exact .float y
  | .name id, x, h => .name id
  | .unary op operand, x, h => by
    obtain ⟨y, hy, -⟩ := eval_unary_ok.mp h
    exact .unary op (isArithmetic_of_eval_ok hy)
  | .binary op left right, x, h => by
    obtain ⟨a, b, ha, hb, -⟩ := eval_binary_ok.mp h
    exact .binary op (isArithmetic_of_eval_ok ha) (isArithmetic_of_eval_ok hb)
  | .call target args keywords, x, h => by
    obtain ⟨id, _, _, rfl, -, rfl, -, hargs, -⟩ := eval_call_ok h
    refine .call id fun a ha => ?_
    obtain ⟨y, hy⟩ := evalAll_ok hargs a ha
    exact isArithmetic_of_eval_ok hy
  | .foreign construct parts, x, h => by
    rw [eval_foreign] at h
    cases h

/-- The tokens of arithmetic, and the line ends behind it. -/
def Token.isArithmetic : Token → Bool
  | .number _ => true
  | .name _ => true
  | .symbol mark =>
    [.plus, .minus, .star, .doubleStar, .slash, .doubleSlash, .percent, .openParen, .closeParen,
      .comma].contains mark
  | .lineEnd => true
  | _ => false

namespace Grammar

/-- Nothing but tokens of arithmetic. -/
def AllArithmetic (ts : List Token) : Prop :=
  ∀ t ∈ ts, t.isArithmetic = true

/-- Where the rule reads an arithmetic expression, it steps over tokens of arithmetic only. -/
def Faithful (rule : Rule) : Prop :=
  ∀ {ts e rest}, rule ts = some (e, rest) → e.IsArithmetic → AllArithmetic rest → AllArithmetic ts

theorem allArithmetic_cons {t : Token} {ts : List Token} (ht : t.isArithmetic = true)
    (hts : AllArithmetic ts) : AllArithmetic (t :: ts) :=
  List.forall_mem_cons.mpr ⟨ht, hts⟩

variable {recur : Recursion} {ts rest : List Token} {e : Expr}

/-! ## Chains of operators -/

/-- An operator of a chain is arithmetic and joins arithmetic operands, if what it makes is
arithmetic. -/
def IsFaithfulOperator (operator? : Token → Option (Expr → Expr → Expr)) : Prop :=
  ∀ {t combine a b}, operator? t = some combine → (combine a b).IsArithmetic →
    t.isArithmetic = true ∧ a.IsArithmetic ∧ b.IsArithmetic

/-- The loop is entered with a left operand, which is part of what comes out and so arithmetic
too. -/
theorem chainFrom_faithful {operator? : Token → Option (Expr → Expr → Expr)} {operand : Rule}
    (hoperator : IsFaithfulOperator operator?) (hoperand : Faithful operand) {n : Nat} {left : Expr}
    (h : chainFrom operator? operand n left ts = some (e, rest)) (he : e.IsArithmetic)
    (hrest : AllArithmetic rest) : left.IsArithmetic ∧ AllArithmetic ts := by
  induction n generalizing left ts with
  | zero =>
    cases h
    exact ⟨he, hrest⟩
  | succ n ih =>
    cases ts with
    | nil =>
      cases h
      exact ⟨he, hrest⟩
    | cons t ts =>
      rw [chainFrom] at h
      split at h
      case h_1 combine ht =>
        obtain ⟨⟨right, behind⟩, hright, hmore⟩ := Option.bind_eq_some_iff.mp h
        -- What the operator makes goes into the next round, which says that it is arithmetic.
        obtain ⟨hcombined, hbehind⟩ := ih hmore
        obtain ⟨htoken, hleft, hfirst⟩ := hoperator ht hcombined
        exact ⟨hleft, allArithmetic_cons htoken (hoperand hright hfirst hbehind)⟩
      case h_2 =>
        cases h
        exact ⟨he, hrest⟩

theorem chain_faithful {operator? : Token → Option (Expr → Expr → Expr)} {operand : Rule}
    (hoperator : IsFaithfulOperator operator?) (hoperand : Faithful operand) :
    Faithful (chain operator? operand) := by
  intro ts e rest h he hrest
  obtain ⟨⟨first, behind⟩, hfirst, hmore⟩ := Option.bind_eq_some_iff.mp h
  obtain ⟨harithmetic, hbehind⟩ := chainFrom_faithful hoperator hoperand hmore he hrest
  exact hoperand hfirst harithmetic hbehind

theorem productOperator?_faithful : IsFaithfulOperator productOperator? := by
  intro t combine a b ht h
  rw [productOperator?.eq_def] at ht
  split at ht <;> cases ht <;> cases h <;> exact ⟨rfl, ‹_›, ‹_›⟩

theorem sumOperator?_faithful : IsFaithfulOperator sumOperator? := by
  intro t combine a b ht h
  rw [sumOperator?.eq_def] at ht
  split at ht <;> cases ht <;> cases h <;> exact ⟨rfl, ‹_›, ‹_›⟩

theorem shiftOperator?_faithful : IsFaithfulOperator shiftOperator? := by
  intro t combine a b ht h
  rw [shiftOperator?.eq_def] at ht
  split at ht
  case h_1 => cases ht; cases h
  case h_2 => cases ht; cases h
  case h_3 => cases ht

theorem bitwiseAndOperator?_faithful : IsFaithfulOperator bitwiseAndOperator? := by
  intro t combine a b ht h
  rw [bitwiseAndOperator?.eq_def] at ht
  split at ht
  case h_1 => cases ht; cases h
  case h_2 => cases ht

theorem bitwiseOrOperator?_faithful : IsFaithfulOperator bitwiseOrOperator? := by
  intro t combine a b ht h
  rw [bitwiseOrOperator?.eq_def] at ht
  split at ht
  case h_1 => cases ht; cases h
  case h_2 => cases ht

/-! ## Displays and groups -/

/-- An element that is arithmetic is no spread one and no binding. -/
theorem named_faithful (hrecur : ∀ goal, Faithful (recur goal)) : Faithful (named recur) := by
  intro ts e rest h he hrest
  rw [named.eq_def] at h
  split at h
  case h_1 =>
    obtain ⟨⟨value, behind⟩, -, hvalue⟩ := Option.bind_eq_some_iff.mp h
    cases hvalue
    cases he
  case h_2 => exact hrecur .expression h he hrest

theorem element_faithful (hrecur : ∀ goal, Faithful (recur goal)) : Faithful (element recur) := by
  intro ts e rest h he hrest
  rw [element.eq_def] at h
  split at h
  case h_1 =>
    obtain ⟨⟨value, behind⟩, -, hvalue⟩ := Option.bind_eq_some_iff.mp h
    cases hvalue
    cases he
  case h_2 => exact named_faithful hrecur h he hrest

/-- A comprehension is a foreign node; without one, no token has been stepped over. -/
theorem comprehension_cases {construct : Construct} {parts : List Expr} {closing : Symbol}
    {found : Option Expr}
    (h : comprehension recur construct parts closing ts = some (found, rest)) :
    (∃ others, found = some (.foreign construct others)) ∨ found = none ∧ rest = ts := by
  rw [comprehension] at h
  split at h
  case h_1 =>
    cases h
    exact .inr ⟨rfl, rfl⟩
  case h_2 =>
    obtain ⟨⟨first, behind⟩, -, h⟩ := Option.bind_eq_some_iff.mp h
    obtain ⟨⟨others, behind⟩, -, h⟩ := Option.bind_eq_some_iff.mp h
    obtain ⟨behind, -, h⟩ := Option.bind_eq_some_iff.mp h
    cases h
    exact .inl ⟨_, rfl⟩

theorem expect_eq_some {mark : Symbol} (h : expect mark ts = some rest) :
    ts = .symbol mark :: rest := by
  rw [expect.eq_def] at h
  split at h
  case h_1 found behind =>
    split at h
    case isTrue heq =>
      cases h
      rw [heq]
    case isFalse => cases h
  case h_2 => cases h

/-- A group is arithmetic only if it is a single element: a tuple, a `yield` and a generator are
foreign. -/
theorem group_faithful (hrecur : ∀ goal, Faithful (recur goal)) : Faithful (group recur) := by
  intro ts e rest h he hrest
  rw [group.eq_def] at h
  split at h
  case h_1 => cases h; cases he
  case h_2 =>
    obtain ⟨_, -, h⟩ := Option.bind_eq_some_iff.mp h
    obtain ⟨_, -, h⟩ := Option.bind_eq_some_iff.mp h
    cases h
    cases he
  case h_3 => cases h; cases he
  case h_4 =>
    obtain ⟨_, -, h⟩ := Option.bind_eq_some_iff.mp h
    cases h
    cases he
  case h_5 =>
    obtain ⟨⟨first, behind⟩, hfirst, h⟩ := Option.bind_eq_some_iff.mp h
    dsimp only at h
    split at h
    case h_1 => cases h; cases he
    case h_2 =>
      obtain ⟨_, -, h⟩ := Option.bind_eq_some_iff.mp h
      cases h
      cases he
    case h_3 =>
      split at h
      case isTrue => cases h
      case isFalse =>
        obtain ⟨⟨found, after⟩, hfound, hmore⟩ := Option.bind_eq_some_iff.mp h
        rcases comprehension_cases hfound with ⟨others, rfl⟩ | ⟨rfl, rfl⟩
        · cases hmore
          cases he
        · -- No clause follows, so the element ends at the closing parenthesis.
          obtain ⟨closed, hclosed, hend⟩ := Option.map_eq_some_iff.mp hmore
          cases hend
          obtain rfl := expect_eq_some hclosed
          exact element_faithful hrecur hfirst he (allArithmetic_cons rfl hrest)

/-- A list is not arithmetic. -/
theorem listDisplay_foreign (h : listDisplay recur ts = some (e, rest)) : ¬ e.IsArithmetic := by
  rw [listDisplay.eq_def] at h
  split at h
  case h_1 => cases h; exact nofun
  case h_2 =>
    obtain ⟨⟨first, behind⟩, -, h⟩ := Option.bind_eq_some_iff.mp h
    dsimp only at h
    split at h
    case h_1 => cases h; exact nofun
    case h_2 =>
      obtain ⟨_, -, h⟩ := Option.bind_eq_some_iff.mp h
      cases h
      exact nofun
    case h_3 => cases h; exact nofun
    case h_4 =>
      split at h
      case isTrue => cases h
      case isFalse =>
        obtain ⟨⟨found, after⟩, hfound, hmore⟩ := Option.bind_eq_some_iff.mp h
        rcases comprehension_cases hfound with ⟨others, rfl⟩ | ⟨rfl, rfl⟩
        · cases hmore
          exact nofun
        · cases hmore

theorem moreEntries_foreign {first : List Expr} (h : moreEntries recur first ts = some (e, rest)) :
    ¬ e.IsArithmetic := by
  rw [moreEntries.eq_def] at h
  split at h
  case h_1 => cases h; exact nofun
  case h_2 => cases h; exact nofun
  case h_3 =>
    obtain ⟨_, -, h⟩ := Option.bind_eq_some_iff.mp h
    cases h
    exact nofun
  case h_4 => cases h

/-- What stands between braces is not arithmetic. -/
theorem braceDisplay_foreign (h : braceDisplay recur ts = some (e, rest)) : ¬ e.IsArithmetic := by
  rw [braceDisplay.eq_def] at h
  split at h
  case h_1 => cases h; exact nofun
  case h_2 =>
    obtain ⟨_, -, h⟩ := Option.bind_eq_some_iff.mp h
    exact moreEntries_foreign h
  case h_3 =>
    obtain ⟨⟨first, behind⟩, -, h⟩ := Option.bind_eq_some_iff.mp h
    dsimp only at h
    split at h
    case h_1 =>
      split at h
      case isTrue => cases h
      case isFalse =>
        obtain ⟨⟨value, after⟩, -, hvalue⟩ := Option.bind_eq_some_iff.mp h
        obtain ⟨⟨found, last⟩, hfound, hmore⟩ := Option.bind_eq_some_iff.mp hvalue
        rcases comprehension_cases hfound with ⟨others, rfl⟩ | ⟨rfl, rfl⟩
        · cases hmore
          exact nofun
        · exact moreEntries_foreign hmore
    case h_2 => cases h; exact nofun
    case h_3 =>
      obtain ⟨_, -, h⟩ := Option.bind_eq_some_iff.mp h
      cases h
      exact nofun
    case h_4 => cases h; exact nofun
    case h_5 =>
      split at h
      case isTrue => cases h
      case isFalse =>
        obtain ⟨⟨found, after⟩, hfound, hmore⟩ := Option.bind_eq_some_iff.mp h
        rcases comprehension_cases hfound with ⟨others, rfl⟩ | ⟨rfl, rfl⟩
        · cases hmore
          exact nofun
        · cases hmore

/-- A quotation is not arithmetic. -/
theorem quotation_foreign (h : quotation recur ts = some (e, rest)) : ¬ e.IsArithmetic := by
  rw [quotation] at h
  dsimp only at h
  split at h
  case h_1 => cases h; exact nofun
  case h_2 => cases h; exact nofun
  case h_3 =>
    split at h
    case isTrue => cases h; exact nofun
    case isFalse => cases h

/-! ## Atoms and calls -/

theorem atom_faithful (hrecur : ∀ goal, Faithful (recur goal)) : Faithful (atom recur) := by
  intro ts e rest h he hrest
  rw [atom.eq_def] at h
  split at h
  case h_1 => cases h; exact allArithmetic_cons rfl hrest
  case h_2 => cases h; exact allArithmetic_cons rfl hrest
  case h_7 => exact allArithmetic_cons rfl (group_faithful hrecur h he hrest)
  case h_8 => exact absurd he (listDisplay_foreign h)
  case h_9 => exact absurd he (braceDisplay_foreign h)
  case h_10 => exact absurd he (quotation_foreign h)
  case h_11 => cases h
  -- The literals that are no numbers.
  all_goals cases h; cases he

/-- Arguments of a call that are arithmetic: they are all positional. -/
def Arguments.AreArithmetic (found : Arguments) : Prop :=
  (∀ a ∈ found.positional, a.IsArithmetic) ∧ found.keywords = []

/-- The reading behind a plain argument: a comprehension, which takes the rest, or what goes on
behind the argument. -/
theorem arguments_plain {n : Nat} {phase : ArgumentPhase} {found : Arguments} {behind : List Token}
    (h : (do
      let (generator?, ts) ←
        if phase = .first then comprehension recur .generator [e] .closeParen behind
        else some (none, behind)
      match generator? with
      | some generator => some (⟨[generator], []⟩, ts)
      | none =>
        let (others, ts) ← argumentsBehind recur n ts
        some ({ others with positional := e :: others.positional }, ts)) = some (found, rest))
    (hfound : found.AreArithmetic) : ∃ others, argumentsBehind recur n behind
      = some (others, rest) ∧ found = { others with positional := e :: others.positional } := by
  have hbehind : (do
      let (others, ts) ← argumentsBehind recur n behind
      some ({ others with positional := e :: others.positional }, ts)) = some (found, rest) := by
    dsimp only at h
    split at h
    case isTrue =>
      obtain ⟨⟨generator?, after⟩, hgenerator, hmore⟩ := Option.bind_eq_some_iff.mp h
      rcases comprehension_cases hgenerator with ⟨others, rfl⟩ | ⟨rfl, rfl⟩
      · cases hmore
        cases hfound.1 _ List.mem_cons_self
      · exact hmore
    case isFalse => exact h
  obtain ⟨⟨others, last⟩, hothers, hlast⟩ := Option.bind_eq_some_iff.mp hbehind
  cases hlast
  exact ⟨others, hothers, rfl⟩

theorem arguments_faithful (hrecur : ∀ goal, Faithful (recur goal)) {n : Nat}
    {phase : ArgumentPhase} {found : Arguments}
    (h : arguments recur n phase ts = some (found, rest)) (hfound : found.AreArithmetic)
    (hrest : AllArithmetic rest) : AllArithmetic ts := by
  induction n generalizing ts phase found with
  | zero => cases h
  | succ n ih =>
    have hbehind : ∀ {ts others}, argumentsBehind recur n ts = some (others, rest) →
        others.AreArithmetic → AllArithmetic ts := by
      intro ts others h hothers
      rw [argumentsBehind.eq_def] at h
      split at h
      case h_1 => cases h; exact allArithmetic_cons rfl hrest
      case h_2 => exact allArithmetic_cons rfl (ih h hothers)
      case h_3 => cases h
    rw [arguments.eq_def] at h
    dsimp only at h
    -- Keywords and spread arguments make a call that is not arithmetic, whatever follows them.
    split at h
    case h_1 => cases h; exact allArithmetic_cons rfl hrest
    case h_2 =>
      obtain ⟨_, -, h⟩ := Option.bind_eq_some_iff.mp h
      obtain ⟨_, -, h⟩ := Option.bind_eq_some_iff.mp h
      cases h
      cases hfound.2
    case h_3 =>
      obtain ⟨_, -, h⟩ := Option.bind_eq_some_iff.mp h
      obtain ⟨_, -, h⟩ := Option.bind_eq_some_iff.mp h
      cases h
      cases hfound.2
    case h_4 =>
      split at h
      case isTrue => cases h
      case isFalse =>
        obtain ⟨_, -, h⟩ := Option.bind_eq_some_iff.mp h
        obtain ⟨_, -, h⟩ := Option.bind_eq_some_iff.mp h
        cases h
        cases hfound.1 _ List.mem_cons_self
    case h_5 =>
      split at h
      case isTrue => cases h
      case isFalse =>
        obtain ⟨⟨first, behind⟩, hfirst, hmore⟩ := Option.bind_eq_some_iff.mp h
        obtain ⟨others, hothers, rfl⟩ := arguments_plain hmore hfound
        obtain ⟨harguments, hkeywords⟩ := hfound
        obtain ⟨hhead, htail⟩ := List.forall_mem_cons.mp harguments
        exact named_faithful hrecur hfirst hhead (hbehind hothers ⟨htail, hkeywords⟩)

/-- Trailers that end in an arithmetic expression are calls: an attribute or a subscript would stay
a part of it. -/
theorem trailers_faithful (hrecur : ∀ goal, Faithful (recur goal)) {n : Nat} {target : Expr}
    (h : trailers recur n target ts = some (e, rest)) (he : e.IsArithmetic)
    (hrest : AllArithmetic rest) : target.IsArithmetic ∧ AllArithmetic ts := by
  induction n generalizing target ts with
  | zero => cases h; exact ⟨he, hrest⟩
  | succ n ih =>
    rw [trailers.eq_def] at h
    split at h
    case h_1 count id behind hcount =>
      cases hcount
      cases (ih h).1
    case h_2 count behind hcount =>
      cases hcount
      obtain ⟨⟨found, after⟩, hfound, hmore⟩ := Option.bind_eq_some_iff.mp h
      obtain ⟨hcall, hafter⟩ := ih hmore
      -- A call that is arithmetic has a name for its target and no keywords.
      generalize hpositional : found.positional = args at hcall
      generalize hkeywords : found.keywords = keywords at hcall
      cases hcall with
      | call id hargs =>
        have hbehind := arguments_faithful hrecur hfound ⟨hpositional ▸ hargs, hkeywords⟩ hafter
        exact ⟨.name id, allArithmetic_cons rfl hbehind⟩
    case h_3 count behind hcount =>
      cases hcount
      obtain ⟨_, -, hmore⟩ := Option.bind_eq_some_iff.mp h
      cases (ih hmore).1
    case h_4 => cases h; exact ⟨he, hrest⟩

theorem primary_faithful (hrecur : ∀ goal, Faithful (recur goal)) : Faithful (primary recur) := by
  intro ts e rest h he hrest
  obtain ⟨⟨first, behind⟩, hfirst, hmore⟩ := Option.bind_eq_some_iff.mp h
  obtain ⟨harithmetic, hbehind⟩ := trailers_faithful hrecur hmore he hrest
  exact atom_faithful hrecur hfirst harithmetic hbehind

/-! ## The levels of strength -/

theorem awaited_faithful (hrecur : ∀ goal, Faithful (recur goal)) : Faithful (awaited recur) := by
  intro ts e rest h he hrest
  rw [awaited.eq_def] at h
  split at h
  case h_1 =>
    obtain ⟨_, -, h⟩ := Option.bind_eq_some_iff.mp h
    cases h
    cases he
  case h_2 => exact primary_faithful hrecur h he hrest

theorem power_faithful (hrecur : ∀ goal, Faithful (recur goal)) : Faithful (power recur) := by
  intro ts e rest h he hrest
  obtain ⟨⟨base, behind⟩, hbase, hmore⟩ := Option.bind_eq_some_iff.mp h
  dsimp only at hmore
  split at hmore
  case h_1 =>
    obtain ⟨⟨exponent, after⟩, hexponent, hlast⟩ := Option.bind_eq_some_iff.mp hmore
    cases hlast
    cases he with
    | binary _ hleft hright =>
      have hbehind := hrecur .factor hexponent hright hrest
      exact awaited_faithful hrecur hbase hleft (allArithmetic_cons rfl hbehind)
  case h_2 =>
    cases hmore
    exact awaited_faithful hrecur hbase he hrest

theorem factor_faithful (hrecur : ∀ goal, Faithful (recur goal)) : Faithful (factor recur) := by
  intro ts e rest h he hrest
  rw [factor.eq_def] at h
  split at h
  case h_1 =>
    obtain ⟨⟨operand, behind⟩, hoperand, hmore⟩ := Option.bind_eq_some_iff.mp h
    cases hmore
    cases he with
    | unary _ hsigned => exact allArithmetic_cons rfl (hrecur .factor hoperand hsigned hrest)
  case h_2 =>
    obtain ⟨⟨operand, behind⟩, hoperand, hmore⟩ := Option.bind_eq_some_iff.mp h
    cases hmore
    cases he with
    | unary _ hsigned => exact allArithmetic_cons rfl (hrecur .factor hoperand hsigned hrest)
  case h_3 =>
    obtain ⟨_, -, h⟩ := Option.bind_eq_some_iff.mp h
    cases h
    cases he
  case h_4 => exact power_faithful hrecur h he hrest

theorem sum_faithful (hrecur : ∀ goal, Faithful (recur goal)) : Faithful (sum recur) :=
  chain_faithful sumOperator?_faithful
    (chain_faithful productOperator?_faithful (factor_faithful hrecur))

theorem bitwiseOr_faithful (hrecur : ∀ goal, Faithful (recur goal)) : Faithful (bitwiseOr recur) :=
  chain_faithful bitwiseOrOperator?_faithful
    (chain_faithful bitwiseAndOperator?_faithful
      (chain_faithful shiftOperator?_faithful (sum_faithful hrecur)))

/-- Without operands behind a first one, the loop over them steps over nothing. -/
theorem comparedWith_nil {n : Nat} (h : comparedWith recur n ts = some ([], rest)) : rest = ts := by
  cases n with
  | zero => cases h; rfl
  | succ n =>
    rw [comparedWith.eq_def] at h
    dsimp only at h
    split at h
    case h_1 =>
      obtain ⟨_, -, h⟩ := Option.bind_eq_some_iff.mp h
      obtain ⟨_, -, h⟩ := Option.bind_eq_some_iff.mp h
      cases h
    case h_2 => cases h; rfl

theorem booleanChain_nil {word : Keyword} {operand : Rule} {n : Nat}
    (h : booleanChain word operand n ts = some ([], rest)) : rest = ts := by
  cases n with
  | zero => cases h; rfl
  | succ n =>
    rw [booleanChain.eq_def] at h
    dsimp only at h
    split at h
    case h_1 =>
      obtain ⟨_, -, h⟩ := Option.bind_eq_some_iff.mp h
      obtain ⟨_, -, h⟩ := Option.bind_eq_some_iff.mp h
      cases h
    case h_2 => cases h; rfl

/-- An operation on several operands that is arithmetic has a single one. -/
theorem isEmpty_of_isArithmetic {construct : Construct} {first : Expr} {others : List Expr}
    (h : Expr.IsArithmetic
      (if others.isEmpty then first else .foreign construct (first :: others))) :
    others = [] := by
  cases others with
  | nil => rfl
  | cons => cases h

theorem comparison_faithful (hrecur : ∀ goal, Faithful (recur goal)) :
    Faithful (comparison recur) := by
  intro ts e rest h he hrest
  obtain ⟨⟨first, behind⟩, hfirst, hmore⟩ := Option.bind_eq_some_iff.mp h
  obtain ⟨⟨others, after⟩, hothers, hlast⟩ := Option.bind_eq_some_iff.mp hmore
  cases hlast
  obtain rfl := isEmpty_of_isArithmetic he
  obtain rfl := comparedWith_nil hothers
  exact bitwiseOr_faithful hrecur hfirst he hrest

theorem boolean_faithful {word : Keyword} {operand : Rule} (hoperand : Faithful operand) :
    Faithful (boolean word operand) := by
  intro ts e rest h he hrest
  obtain ⟨⟨first, behind⟩, hfirst, hmore⟩ := Option.bind_eq_some_iff.mp h
  obtain ⟨⟨others, after⟩, hothers, hlast⟩ := Option.bind_eq_some_iff.mp hmore
  cases hlast
  obtain rfl := isEmpty_of_isArithmetic he
  obtain rfl := booleanChain_nil hothers
  exact hoperand hfirst he hrest

theorem inversion_faithful (hrecur : ∀ goal, Faithful (recur goal)) :
    Faithful (inversion recur) := by
  intro ts e rest h he hrest
  rw [inversion.eq_def] at h
  split at h
  case h_1 =>
    obtain ⟨_, -, h⟩ := Option.bind_eq_some_iff.mp h
    cases h
    cases he
  case h_2 => exact comparison_faithful hrecur h he hrest

theorem disjunction_faithful (hrecur : ∀ goal, Faithful (recur goal)) :
    Faithful (disjunction recur) :=
  boolean_faithful (boolean_faithful (inversion_faithful hrecur))

theorem expression_faithful (hrecur : ∀ goal, Faithful (recur goal)) :
    Faithful (expression recur) := by
  intro ts e rest h he hrest
  rw [expression.eq_def] at h
  split at h
  case h_1 =>
    obtain ⟨_, -, h⟩ := Option.bind_eq_some_iff.mp h
    obtain ⟨_, -, h⟩ := Option.bind_eq_some_iff.mp h
    cases h
    cases he
  case h_2 =>
    obtain ⟨⟨body, behind⟩, hbody, hmore⟩ := Option.bind_eq_some_iff.mp h
    dsimp only at hmore
    split at hmore
    case h_1 =>
      obtain ⟨_, -, hmore⟩ := Option.bind_eq_some_iff.mp hmore
      obtain ⟨_, -, hmore⟩ := Option.bind_eq_some_iff.mp hmore
      obtain ⟨_, -, hmore⟩ := Option.bind_eq_some_iff.mp hmore
      cases hmore
      cases he
    case h_2 =>
      cases hmore
      exact disjunction_faithful hrecur hbody he hrest

/-! ## The whole grammar -/

/-- **Every rule of the grammar is faithful**, to any depth of recursion. -/
theorem parse_faithful (depth : Nat) (goal : Goal) : Faithful (parse depth goal) := by
  induction depth generalizing goal with
  | zero => exact nofun
  | succ depth ih =>
    cases goal with
    | expression => exact expression_faithful ih
    | disjunction => exact disjunction_faithful ih
    | inversion => exact inversion_faithful ih
    | bitwiseOr => exact bitwiseOr_faithful ih
    | factor => exact factor_faithful ih
    | primary => exact primary_faithful ih

/-- An item without a comma behind it is read by itself. -/
theorem items_single {α : Type} {item : Reading α} {stop : List Token → Bool} {n : Nat} {a : α}
    (h : items item stop n ts = some (([a], false), rest)) : item ts = some (a, rest) := by
  cases n with
  | zero => cases h
  | succ n =>
    obtain ⟨⟨first, behind⟩, hfirst, hmore⟩ := Option.bind_eq_some_iff.mp h
    dsimp only at hmore
    split at hmore
    case h_1 =>
      split at hmore
      case isTrue => cases hmore
      case isFalse =>
        obtain ⟨⟨⟨others, several⟩, after⟩, -, hlast⟩ := Option.bind_eq_some_iff.mp hmore
        cases hlast
    case h_2 =>
      cases hmore
      exact hfirst

theorem allArithmetic_of_isEnd (h : isEnd ts = true) : AllArithmetic ts := by
  intro t ht
  have hend := List.all_eq_true.mp h t ht
  cases t with
  | lineEnd => rfl
  | number | name | keyword | quotation | symbol => cases hend

/-- **Arithmetic is read from tokens of arithmetic only.** -/
theorem allArithmetic_of_ofTokens? {depth : Nat} (h : ofTokens? depth ts = some e)
    (he : e.IsArithmetic) : AllArithmetic ts := by
  obtain ⟨⟨⟨parts, several⟩, rest⟩, hitems, hmore⟩ := Option.bind_eq_some_iff.mp h
  dsimp only at hmore
  split at hmore
  case isTrue => cases hmore
  case isFalse hend =>
    -- Several expressions, or one with a comma behind it, are a tuple.
    split at hmore
    case h_1 =>
      cases hmore
      have hrest := allArithmetic_of_isEnd (by simpa using hend)
      exact parse_faithful depth .expression (items_single hitems) he hrest
    case h_2 =>
      cases hmore
      cases he

end Grammar

end Formulary
