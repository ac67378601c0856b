/-
Formulary.Proofs.Formula — formulas as trees, and how they are written.

A `Formula` is a tree of the calculator's own arithmetic: integers, doubles, constants, signs,
operators and calls. Its leaves may also be holes, which stand for something that is written in
another way; a formula without holes is a `Formula Empty`. `toExpr` is what a formula means,
`lexemes` is how it is written.

Written formulas need parentheses where an operand binds more loosely than its place asks for. Signs
and powers bind alike, so `-2 ^ 2` and `2 ^ -1` stand without parentheses; only the left operand of
a power has to be an atom. The writer may add parentheses around any other operand: the choice is a
parameter, so what holds for every choice holds for the sparing one and for the lavish one.
-/
import Formulary.Expr.Eval

namespace Formulary

/-! ## Trees -/

/-- The name of a constant. -/
abbrev ConstantName : Type :=
  { name : String // name ∈ constants.map Prod.fst }

/-- An arithmetic formula with holes for leaves of another kind. -/
inductive Formula (Hole : Type)
  | numeral (n : Nat)
  | double (x : Float)
  | constant (name : ConstantName)
  | hole (h : Hole)
  | signed (op : UnaryOp) (operand : Formula Hole)
  | binary (op : BinaryOp) (left right : Formula Hole)
  | call (f : Function) (args : List (Formula Hole))

namespace Formula

variable {Hole : Type}

/-- Induction over a formula, with a hypothesis for every argument of a call. -/
@[elab_as_elim]
theorem induct {motive : Formula Hole → Prop}
    (numeral : ∀ n, motive (.numeral n))
    (double : ∀ x, motive (.double x))
    (constant : ∀ name, motive (.constant name))
    (hole : ∀ h, motive (.hole h))
    (signed : ∀ op operand, motive operand → motive (.signed op operand))
    (binary : ∀ op left right, motive left → motive right → motive (.binary op left right))
    (call : ∀ f args, (∀ a ∈ args, motive a) → motive (.call f args))
    (f : Formula Hole) : motive f :=
  Formula.rec (motive_1 := motive) (motive_2 := fun fs => ∀ f ∈ fs, motive f)
    numeral double constant hole signed binary call
    (fun _ h => absurd h List.not_mem_nil)
    (fun _ _ first others _ h => (List.mem_cons.mp h).elim (fun eq => eq ▸ first) (others _))
    f

mutual

/-- The expression that a formula stands for, given one for each hole. -/
def toExpr (value : Hole → Expr) : Formula Hole → Expr
  | .numeral n => .literal (.int n)
  | .double x => .literal (.float x)
  | .constant name => .name name.val.toList
  | .hole h => value h
  | .signed op operand => .unary op (toExpr value operand)
  | .binary op left right => .binary op (toExpr value left) (toExpr value right)
  | .call f args => .call (.name f.name.toList) (toExprs value args) []

/-- The expressions that formulas stand for. -/
def toExprs (value : Hole → Expr) : List (Formula Hole) → List Expr
  | [] => []
  | f :: rest => toExpr value f :: toExprs value rest

end

end Formula

/-! ## Strength -/

/-- The strengths with which formulas bind, from weak to strong. Each is also a place, in which only
formulas of that strength at least stand without parentheses. -/
inductive Strength
  | whole
  | sum
  | product
  | factor
  | atom
deriving DecidableEq, Repr

/-- The strengths counted from the weakest one. -/
def Strength.rank : Strength → Nat
  | .whole => 0
  | .sum => 1
  | .product => 2
  | .factor => 3
  | .atom => 4

/-- The symbol of a sign. -/
def UnaryOp.symbol : UnaryOp → Symbol
  | .plus => .plus
  | .minus => .minus

namespace BinaryOp

/-- The symbol of an operator. -/
def symbol : BinaryOp → Symbol
  | .add => .plus
  | .subtract => .minus
  | .multiply => .star
  | .divide => .slash
  | .floorDivide => .doubleSlash
  | .modulo => .percent
  | .power => .doubleStar

/-- The strength of an operator. -/
def strength : BinaryOp → Strength
  | .add | .subtract => .sum
  | .multiply | .divide | .floorDivide | .modulo => .product
  | .power => .factor

/-- The place on the left of an operator: sums and products associate to the left, and the base of a
power is an atom. -/
def leftPlace : BinaryOp → Strength
  | .add | .subtract => .sum
  | .multiply | .divide | .floorDivide | .modulo => .product
  | .power => .atom

/-- The place on the right of an operator: powers associate to the right, and their exponent may
carry a sign. -/
def rightPlace : BinaryOp → Strength
  | .add | .subtract => .product
  | .multiply | .divide | .floorDivide | .modulo => .factor
  | .power => .factor

end BinaryOp

/-- The strength of a formula. -/
def Formula.strength {Hole : Type} : Formula Hole → Strength
  | .numeral _ | .double _ | .constant _ | .hole _ | .call .. => .atom
  | .signed .. => .factor
  | .binary op .. => op.strength

/-! ## Lexemes -/

/-- What a written formula consists of: tokens, and holes. -/
inductive Lexeme (Hole : Type)
  | token (t : Token)
  | hole (h : Hole)

/-- The token that a lexeme of a formula without holes is. -/
def Lexeme.closed : Lexeme Empty → Token
  | .token t => t

/-- The lexeme of a symbol. -/
abbrev Lexeme.symbol {Hole : Type} (mark : Symbol) : Lexeme Hole :=
  .token (.symbol mark)

namespace Formula

variable {Hole : Type}

/-- A written formula in its place, behind and before parentheses if its strength asks for them or
the writer wants them. -/
def enclosed (extra : Strength → Formula Hole → Bool) (place : Strength) (f : Formula Hole)
    (body : List (Lexeme Hole)) : List (Lexeme Hole) :=
  if f.strength.rank < place.rank || extra place f then
    .symbol .openParen :: body ++ [.symbol .closeParen]
  else body

mutual

/-- A formula as it is written, without parentheses around the whole. `extra` tells around which
operands, in which places, parentheses stand that are not needed. -/
def body (extra : Strength → Formula Hole → Bool) : Formula Hole → List (Lexeme Hole)
  | .numeral n => [.token (.number (.int n))]
  | .double x => [.token (.number (.float x))]
  | .constant name => [.token (.name name.val.toList)]
  | .hole h => [.hole h]
  | .signed op operand =>
    .symbol op.symbol :: enclosed extra .factor operand (body extra operand)
  | .binary op left right =>
    enclosed extra op.leftPlace left (body extra left)
      ++ .symbol op.symbol :: enclosed extra op.rightPlace right (body extra right)
  | .call f args =>
    .token (.name f.name.toList) :: .symbol .openParen :: argumentBodies extra args
      ++ [.symbol .closeParen]

/-- The arguments of a call as they are written, with commas between. -/
def argumentBodies (extra : Strength → Formula Hole → Bool) :
    List (Formula Hole) → List (Lexeme Hole)
  | [] => []
  | [f] => enclosed extra .whole f (body extra f)
  | f :: g :: rest =>
    enclosed extra .whole f (body extra f) ++ .symbol .comma :: argumentBodies extra (g :: rest)

end

/-- A formula as it is written in a place. -/
def lexemes (extra : Strength → Formula Hole → Bool) (place : Strength) (f : Formula Hole) :
    List (Lexeme Hole) :=
  enclosed extra place f (body extra f)

/-- The tokens of a formula without holes in a place. -/
def tokens (extra : Strength → Formula Empty → Bool) (place : Strength) (f : Formula Empty) :
    List Token :=
  (f.lexemes extra place).map Lexeme.closed

/-- The parentheses that are needed, and no others. -/
def sparing : Strength → Formula Hole → Bool :=
  fun _ _ => false

/-- Parentheses around every compound operand. -/
def lavish : Strength → Formula Hole → Bool :=
  fun place f => place != .whole && f.strength != .atom

end Formula

end Formulary
