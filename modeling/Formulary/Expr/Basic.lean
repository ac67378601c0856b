/-
Formulary.Expr.Basic — expression trees.

The arithmetic of the calculator has constructors of its own: literals, names, two signs, seven
operators and calls. Everything else that the expression language can say (comparisons, displays,
comprehensions, attributes, …) is one constructor, `foreign`, which records the construct and its
subexpressions: such a node is never evaluated, it is refused by its name. A call keeps its keyword
values apart from its positional arguments; an argument that is spread is a `foreign .starred`
among the positional ones.
-/
import Formulary.Expr.Literal

namespace Formulary

/-- The two signs. -/
inductive UnaryOp
  | plus
  | minus
deriving DecidableEq, Repr

/-- The seven binary operators. -/
inductive BinaryOp
  | add
  | subtract
  | multiply
  | divide
  | floorDivide
  | modulo
  | power
deriving DecidableEq, Repr

/-- The constructs of the expression language outside the arithmetic of the calculator. -/
inductive Construct
  | otherUnary
  | otherBinary
  | boolean
  | comparison
  | conditional
  | lambda
  | assignment
  | await
  | yield
  | yieldFrom
  | member
  | subscript
  | slice
  | starred
  | tuple
  | list
  | set
  | dictionary
  | listComprehension
  | setComprehension
  | dictionaryComprehension
  | generator
  | formattedText
deriving DecidableEq, Repr

/-- The name by which diagnostics call a construct. -/
def Construct.label : Construct → String
  | .otherUnary => "UnaryOp"
  | .otherBinary => "BinOp"
  | .boolean => "BoolOp"
  | .comparison => "Compare"
  | .conditional => "IfExp"
  | .lambda => "Lambda"
  | .assignment => "NamedExpr"
  | .await => "Await"
  | .yield => "Yield"
  | .yieldFrom => "YieldFrom"
  | .member => "Attribute"
  | .subscript => "Subscript"
  | .slice => "Slice"
  | .starred => "Starred"
  | .tuple => "Tuple"
  | .list => "List"
  | .set => "Set"
  | .dictionary => "Dict"
  | .listComprehension => "ListComp"
  | .setComprehension => "SetComp"
  | .dictionaryComprehension => "DictComp"
  | .generator => "GeneratorExp"
  | .formattedText => "JoinedStr"

/-- An expression of the language. -/
inductive Expr
  | literal (value : Literal)
  | name (id : Text)
  | unary (op : UnaryOp) (operand : Expr)
  | binary (op : BinaryOp) (left right : Expr)
  | call (target : Expr) (args : List Expr) (keywords : List Expr)
  | foreign (construct : Construct) (parts : List Expr)

namespace Expr

/-- The name by which diagnostics call the kind of a node. -/
def label : Expr → String
  | .literal _ => "Constant"
  | .name _ => "Name"
  | .unary .. => "UnaryOp"
  | .binary .. => "BinOp"
  | .call .. => "Call"
  | .foreign construct _ => construct.label

/-- Whether the node is a spread argument or element. -/
def isStarred : Expr → Bool
  | .foreign .starred _ => true
  | _ => false

mutual

/-- Whether the expression can stand where a comprehension binds its variables: a name, an
attribute or a subscript, or a tuple or list of such targets. -/
def isTarget : Expr → Bool
  | .name _ => true
  | .foreign .member _ => true
  | .foreign .subscript _ => true
  | .foreign .tuple parts => areTargets parts
  | .foreign .list parts => areTargets parts
  | _ => false

/-- Whether all elements are targets; an element may be spread once. -/
def areTargets : List Expr → Bool
  | [] => true
  | .foreign .starred [e] :: rest => isTarget e && areTargets rest
  | e :: rest => isTarget e && areTargets rest

end

end Expr

end Formulary
