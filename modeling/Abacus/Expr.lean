import Abacus.Token

/-!
# Expressions

An expression is a tree of integers, operators before one operand, and
operators between two.  Every node keeps the token that it was read from: the
number, or the operator.  Parentheses leave no node.

Operators are texts, because a tree may be made by hand with any of them.  The
evaluator says which ones it knows.

`render` writes a tree in its *canonical* form, in which every operator has its
own pair of parentheses and there are no blanks.
-/

namespace Abacus

/-- An expression tree. -/
inductive Expr
  /-- An integer. -/
  | int (token : Token) (value : Int64)
  /-- An operator before its operand. -/
  | unary (token : Token) (operator : String) (operand : Expr)
  /-- An operator between its operands. -/
  | binary (token : Token) (operator : String) (left right : Expr)
deriving DecidableEq, Repr

namespace Expr

/-- The token that the root of the tree was read from. -/
def token : Expr → Token
  | int token _ => token
  | unary token _ _ => token
  | binary token _ _ _ => token

/-- The canonical form of a tree. -/
def render : Expr → String
  | int token _ => token.text
  | unary _ operator operand => "(" ++ operator ++ operand.render ++ ")"
  | binary _ operator left right => "(" ++ left.render ++ operator ++ right.render ++ ")"

end Expr

end Abacus
