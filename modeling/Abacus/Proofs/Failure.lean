import Abacus.Expr.Eval

/-!
# Where an evaluation fails

The *nodes* of a tree are its subtrees in the order in which evaluation comes to
their roots, operands before their operator and left ones before right ones.  A
node *fails* if its operands have integers for answers and its own operation on
them is an error.

Many nodes of a tree may fail, also under operators that are themselves unknown.
The answer is the error of the first one, unchanged, and an integer if there is
none (`findSome?_failure?_nodes`).  The induction is on the tree.  What decides it
is that a node with an error for an operand does not fail, so that the error is
the first one of the node as well.

*Other operations.*  An operation says what it makes of failures too, but
evaluation never asks.  With any other operations that agree on integers the
answers are the same (`evalWith_congr`).
-/

namespace Abacus

/-- The error of an answer that is one. -/
def Answer.error? : Answer → Option EvalError
  | .ok _ => none
  | .error e => some e

theorem Answer.error?_eq_none_iff (x : Answer) : x.error? = none ↔ ∃ value, x = .ok value := by
  cases x with
  | ok value => simp [error?]
  | error e => simp [error?]

theorem Answer.error?_eq_some_iff (x : Answer) (e : EvalError) :
    x.error? = some e ↔ x = .error e := by
  cases x with
  | ok value => simp [error?]
  | error e' => simp [error?]

theorem EvalError.message_unknownBinary_integer (operator : String) :
    (unknownBinary .integer operator .integer).message =
      "Unknown operator: INTEGER " ++ operator ++ " INTEGER" := by
  have before : "Unknown operator: " ++ "INTEGER" ++ " " = "Unknown operator: INTEGER " := by decide
  have after : " " ++ "INTEGER" = " INTEGER" := by decide
  calc (unknownBinary .integer operator .integer).message
    _ = "Unknown operator: " ++ "INTEGER" ++ " " ++ operator ++ " " ++ "INTEGER" := rfl
    _ = "Unknown operator: INTEGER " ++ operator ++ " INTEGER" := by
      rw [before, String.append_assoc, after]

namespace Expr

/-! ## Nodes that fail -/

/-- The subtrees of a tree in the order of their roots. -/
def nodes : Expr → List Expr
  | int token value => [int token value]
  | unary token operator operand => operand.nodes ++ [unary token operator operand]
  | binary token operator left right =>
    left.nodes ++ (right.nodes ++ [binary token operator left right])

/-- The error of a node that fails: an operator before an integer that is no minus sign, an operator
between two integers that is none of the four, or a division of an integer by zero. -/
def failure? : Expr → Option EvalError
  | int _ _ => none
  | unary _ operator operand =>
    match operand.eval with
    | .ok _ => if operator ≠ "-" then some (.unknownUnary operator) else none
    | .error _ => none
  | binary _ operator left right =>
    match left.eval, right.eval with
    | .ok _, .ok r =>
      if operator ∉ ["+", "-", "*", "/"] then some (.unknownBinary .integer operator .integer)
      else if operator = "/" ∧ r = 0 then some .divisionByZero
      else none
    | _, _ => none

section

variable {operand left right : Expr} {value l r : Int64}

theorem failure?_unary_of_ok (token : Token) (operator : String) (h : operand.eval = .ok value) :
    (unary token operator operand).failure? = (Answer.unary operator (.ok value)).error? := by
  simp only [failure?, h]
  by_cases minus : operator = "-"
  · simp [Answer.unary, Answer.error?, minus]
  · simp [Answer.unary, Answer.error?, minus]

theorem failure?_binary_of_ok (token : Token) (operator : String) (hl : left.eval = .ok l)
    (hr : right.eval = .ok r) :
    (binary token operator left right).failure? = (applyBinary operator l r).error? := by
  simp only [failure?, hl, hr]
  by_cases known : operator ∈ ["+", "-", "*", "/"]
  · rw [if_neg (not_not_intro known)]
    simp only [List.mem_cons, List.not_mem_nil, or_false] at known
    rcases known with rfl | rfl | rfl | rfl
    · rfl
    · rfl
    · rfl
    · by_cases zero : r = 0
      · rw [zero, applyBinary_divide_zero]
        rfl
      · rw [applyBinary_divide zero]
        simp [Answer.error?, zero]
  · rw [if_pos known]
    simp only [List.mem_cons, List.not_mem_nil, or_false, not_or] at known
    obtain ⟨plus, minus, times, divide⟩ := known
    simp [applyBinary, Answer.error?, plus, minus, times, divide]

end

/-- A node that fails has one of three errors. -/
theorem eq_of_failure?_eq_some {e : Expr} {error : EvalError} (h : e.failure? = some error) :
    (∃ operator, error = .unknownUnary operator) ∨
      (∃ operator, error = .unknownBinary .integer operator .integer) ∨
      error = .divisionByZero := by
  cases e with
  | int => cases h
  | unary token operator operand =>
    rw [failure?] at h
    split at h
    · split at h
      · cases h
        exact .inl ⟨operator, rfl⟩
      · cases h
    · cases h
  | binary token operator left right =>
    rw [failure?] at h
    split at h
    · split at h
      · cases h
        exact .inr (.inl ⟨operator, rfl⟩)
      · split at h
        · cases h
          exact .inr (.inr rfl)
        · cases h
    · cases h

/-- The first node of a tree that fails, fails with the error of the answer, and none does if the
answer is an integer. -/
theorem findSome?_failure?_nodes (e : Expr) : e.nodes.findSome? failure? = e.eval.error? := by
  induction e with
  | int token value => rfl
  | unary token operator operand ih =>
    rw [nodes, List.findSome?_append, ih]
    cases answer : operand.eval with
    | error error =>
      rw [eval_unary_of_error token operator answer]
      rfl
    | ok value =>
      rw [eval_unary_of_ok token operator answer, ← failure?_unary_of_ok token operator answer]
      simp [Answer.error?]
  | binary token operator left right ihl ihr =>
    rw [nodes, List.findSome?_append, List.findSome?_append, ihl, ihr]
    cases answerL : left.eval with
    | error error =>
      rw [eval_binary_of_error_left token operator right answerL]
      rfl
    | ok l =>
      cases answerR : right.eval with
      | error error =>
        rw [eval_binary_of_error_right token operator answerL answerR]
        rfl
      | ok r =>
        rw [eval_binary_of_ok token operator answerL answerR,
          ← failure?_binary_of_ok token operator answerL answerR]
        simp [Answer.error?]

/-! ## Other operations -/

/-- Evaluation with other operations on answers. -/
def evalWith (unaryOp : String → Answer → Answer)
    (binaryOp : String → Answer → Answer → Answer) : Expr → Answer
  | int _ value => .ok value
  | unary _ operator operand =>
    let x := operand.evalWith unaryOp binaryOp
    if x.isError then x else unaryOp operator x
  | binary _ operator left right =>
    let l := left.evalWith unaryOp binaryOp
    if l.isError then l
    else
      let r := right.evalWith unaryOp binaryOp
      if r.isError then r else binaryOp operator l r

/-- Evaluation only depends on what operations make of integers. -/
theorem evalWith_congr {unaryOp : String → Answer → Answer}
    {binaryOp : String → Answer → Answer → Answer}
    (unaries : ∀ operator value, unaryOp operator (.ok value) = Answer.unary operator (.ok value))
    (binaries : ∀ operator l r,
      binaryOp operator (.ok l) (.ok r) = Answer.binary operator (.ok l) (.ok r)) (e : Expr) :
    e.evalWith unaryOp binaryOp = e.eval := by
  induction e with
  | int => rfl
  | unary token operator operand ih =>
    rw [evalWith, eval, ih]
    cases operand.eval with
    | error error => rfl
    | ok value => exact unaries operator value
  | binary token operator left right ihl ihr =>
    rw [evalWith, eval, ihl, ihr]
    cases left.eval with
    | error error => rfl
    | ok l =>
      cases right.eval with
      | error error => rfl
      | ok r => exact binaries operator l r

/-! ## The first failure -/

/-- The answer to a tree is an integer if no node fails, and else the error of the first node that
does, which says one of three things.  What operations make of failures does not matter. -/
theorem eval_first_failure (e : Expr) :
    ((∃ value, e.eval = .ok value) ↔ ∀ n ∈ e.nodes, n.failure? = none) ∧
    (∀ error, e.eval = .error error ↔ e.nodes.findSome? failure? = some error) ∧
    (∀ error, e.eval = .error error →
      (∃ operator, error = .unknownUnary operator ∧
        error.message = "Unknown operator: " ++ operator) ∨
      (∃ operator, error = .unknownBinary .integer operator .integer ∧
        error.message = "Unknown operator: INTEGER " ++ operator ++ " INTEGER") ∨
      error = .divisionByZero ∧ error.message = "Division by zero: INTEGER / INTEGER") ∧
    ∀ unaryOp binaryOp,
      (∀ operator value, unaryOp operator (.ok value) = Answer.unary operator (.ok value)) →
      (∀ operator l r,
        binaryOp operator (.ok l) (.ok r) = Answer.binary operator (.ok l) (.ok r)) →
      e.evalWith unaryOp binaryOp = e.eval := by
  refine ⟨?_, ?_, ?_, fun _ _ unaries binaries => evalWith_congr unaries binaries e⟩
  · rw [← Answer.error?_eq_none_iff, ← findSome?_failure?_nodes, List.findSome?_eq_none_iff]
  · intro error
    rw [← Answer.error?_eq_some_iff, ← findSome?_failure?_nodes]
  · intro error answer
    rw [← Answer.error?_eq_some_iff, ← findSome?_failure?_nodes] at answer
    obtain ⟨n, -, fails⟩ := List.exists_of_findSome?_eq_some answer
    rcases eq_of_failure?_eq_some fails with ⟨operator, rfl⟩ | ⟨operator, rfl⟩ | rfl
    · exact .inl ⟨operator, rfl, rfl⟩
    · exact .inr (.inl ⟨operator, rfl, EvalError.message_unknownBinary_integer operator⟩)
    · exact .inr (.inr ⟨rfl, rfl⟩)

/-- The operator at the root is not known and the right operand fails as well. -/
example (t : Token) :
    (binary t "?" (unary t "!" (int t 1)) (binary t "/" (int t 1) (int t 0))).eval =
      .error (.unknownUnary "!") := rfl

end Expr

end Abacus
