import Abacus.Expr
import Abacus.Text.Decimal

/-!
# Evaluation

An expression is evaluated in 64-bit integers that wrap around, with division
toward zero.  Only one quotient does not fit, that of the least integer by
minus one, and it wraps to the least integer.

*Operations.*  An operator is applied to answers, and answers are of two kinds,
integers and failures.  Applied to integers it fails if it is not known, or if
it divides by zero.  Applied to anything else it fails as well, and the failure
tells of the kinds of the operands.

*Order.*  Operands come first, the left one before the right one.  The first
failure is the answer at once, and nothing else is evaluated.
-/

namespace Abacus

/-- The two kinds of answer. -/
inductive Answer.Kind
  /-- An integer. -/
  | integer
  /-- A failure. -/
  | failure
deriving DecidableEq, Repr

/-- The name by which messages call a kind of answer. -/
def Answer.Kind.name : Answer.Kind → String
  | integer => "INTEGER"
  | failure => "ERROR"

/-- Why an expression has no value. -/
inductive EvalError
  /-- The operator before an operand is not known. -/
  | unknownUnary (operator : String)
  /-- The operand is of a kind that has no opposite. -/
  | unknownOperand (operand : Answer.Kind)
  /-- The operator between two operands of these kinds is not known. -/
  | unknownBinary (left : Answer.Kind) (operator : String) (right : Answer.Kind)
  /-- The two operands are of different kinds. -/
  | mismatch (left : Answer.Kind) (operator : String) (right : Answer.Kind)
  /-- The divisor is zero. -/
  | divisionByZero
deriving DecidableEq, Repr

/-- What is said about a failed evaluation. -/
def EvalError.message : EvalError → String
  | unknownUnary operator => "Unknown operator: " ++ operator
  | unknownOperand operand => "Unknown operand: " ++ operand.name
  | unknownBinary left operator right =>
    "Unknown operator: " ++ left.name ++ " " ++ operator ++ " " ++ right.name
  | mismatch left operator right =>
    "Type mismatch: " ++ left.name ++ " " ++ operator ++ " " ++ right.name
  | divisionByZero =>
    "Division by zero: " ++ Answer.Kind.integer.name ++ " / " ++ Answer.Kind.integer.name

/-- The outcome of an evaluation. -/
abbrev Answer := Except EvalError Int64

namespace Answer

/-- The text of an answer: a numeral or a message. -/
def text : Answer → String
  | .ok value => Text.Decimal.int value.toInt
  | .error e => e.message

/-- Whether the evaluation failed. -/
def isError : Answer → Bool
  | .ok _ => false
  | .error _ => true

/-- The kind of an answer. -/
def kind : Answer → Kind
  | .ok _ => .integer
  | .error _ => .failure

end Answer

namespace Expr

/-- Applies an operator to two integers. -/
def applyBinary (operator : String) (left right : Int64) : Answer :=
  if operator = "+" then .ok (left + right)
  else if operator = "-" then .ok (left - right)
  else if operator = "*" then .ok (left * right)
  else if operator = "/" then
    if right = 0 then .error .divisionByZero else .ok (left / right)
  else .error (.unknownBinary .integer operator .integer)

theorem applyBinary_divide_zero (left : Int64) :
    applyBinary "/" left 0 = .error .divisionByZero := by
  simp [applyBinary]

theorem applyBinary_divide {right : Int64} (ne : right ≠ 0) (left : Int64) :
    applyBinary "/" left right = .ok (left / right) := by
  simp [applyBinary, ne]

end Expr

namespace Answer

/-- Applies an operator to one answer. -/
def unary (operator : String) (operand : Answer) : Answer :=
  if operator = "-" then
    match operand with
    | .ok value => .ok (-value)
    | .error _ => .error (.unknownOperand operand.kind)
  else .error (.unknownUnary operator)

/-- Applies an operator to two answers. -/
def binary (operator : String) (left right : Answer) : Answer :=
  match left, right with
  | .ok l, .ok r => Expr.applyBinary operator l r
  | _, _ =>
    if left.kind = right.kind then .error (.unknownBinary left.kind operator right.kind)
    else .error (.mismatch left.kind operator right.kind)

end Answer

namespace Expr

/-- The value of an expression, or the first failure on the way to it. -/
def eval : Expr → Answer
  | int _ value => .ok value
  | unary _ operator operand =>
    let x := operand.eval
    if x.isError then x else Answer.unary operator x
  | binary _ operator left right =>
    let l := left.eval
    if l.isError then l
    else
      let r := right.eval
      if r.isError then r else Answer.binary operator l r

/-! ## Steps of an evaluation -/

section

variable {operand left right : Expr} {e : EvalError} {value l r : Int64}

theorem eval_unary_of_error (token : Token) (operator : String) (h : operand.eval = .error e) :
    (unary token operator operand).eval = .error e := by
  simp [eval, h, Answer.isError]

theorem eval_unary_of_ok (token : Token) (operator : String) (h : operand.eval = .ok value) :
    (unary token operator operand).eval = Answer.unary operator (.ok value) := by
  simp [eval, h, Answer.isError]

theorem eval_binary_of_error_left (token : Token) (operator : String) (right : Expr)
    (h : left.eval = .error e) : (binary token operator left right).eval = .error e := by
  simp [eval, h, Answer.isError]

theorem eval_binary_of_error_right (token : Token) (operator : String) (hl : left.eval = .ok l)
    (hr : right.eval = .error e) : (binary token operator left right).eval = .error e := by
  simp [eval, hl, hr, Answer.isError]

theorem eval_binary_of_ok (token : Token) (operator : String) (hl : left.eval = .ok l)
    (hr : right.eval = .ok r) :
    (binary token operator left right).eval = applyBinary operator l r := by
  simp [eval, hl, hr, Answer.isError, Answer.binary]

end

end Expr

end Abacus
