import Abacus.Proofs.Height

/-!
# How deep recursion goes

Evaluating a tree, writing its canonical form and giving it up are recursions on it.
A call is under way while those on the operands are, so as many are under way at once
as there are nodes on a way down, and the height of the tree is room enough for them
(`Expr.Computes.within_eq`).

The height is bounded by the levels that are left when reading begins, however long
the line is (`Climb.height_invariant`).  That holds of any tokens and any mark, and
so of a parser at any depth.  `Parser.recursion_is_bounded` puts both together.
-/

namespace Abacus

open Climb

/-! ## Calls under way -/

namespace Expr

variable {α : Type} {f : Expr → α} {body : (Expr → Option α) → Expr → Option α}

/-- The trees right below the root. -/
def operands : Expr → List Expr
  | int _ _ => []
  | unary _ _ operand => [operand]
  | binary _ _ left right => [left, right]

theorem height_lt_of_mem_operands {d e : Expr} (mem : d ∈ e.operands) : d.height < e.height := by
  cases e with
  | int => cases mem
  | unary token operator operand =>
    cases List.mem_singleton.1 mem
    simp only [height]
    omega
  | binary token operator left right =>
    simp only [operands, List.mem_cons, List.not_mem_nil, or_false] at mem
    simp only [height]
    rcases mem with rfl | rfl <;> omega

/-- A recursion with room for so many calls under way at once.  The body is what one call does, and
is given the function to call.  There is no result if there is no room for a call. -/
def within (body : (Expr → Option α) → Expr → Option α) : Nat → Expr → Option α
  | 0, _ => none
  | n + 1, e => body (within body n) e

/-- The body calls for operands only, and computes a function if those calls do. -/
def Computes (body : (Expr → Option α) → Expr → Option α) (f : Expr → α) : Prop :=
  ∀ e call, (∀ d ∈ e.operands, call d = some (f d)) → body call e = some (f e)

/-- A recursion has its result if there is room for as many calls as the tree is high. -/
theorem Computes.within_eq (h : Computes body f) {n : Nat} {e : Expr} (enough : e.height ≤ n) :
    within body n e = some (f e) := by
  induction n generalizing e with
  | zero => exact absurd e.one_le_height (Nat.not_le_of_lt (Nat.lt_succ_of_le enough))
  | succ n ih =>
    refine h e (within body n) fun d mem => ih ?_
    exact Nat.le_of_lt_succ (Nat.lt_of_lt_of_le (height_lt_of_mem_operands mem) enough)

/-- One call of evaluation.  The right operand is left alone if the left one fails. -/
def evalBody (call : Expr → Option Answer) : Expr → Option Answer
  | int _ value => some (.ok value)
  | unary _ operator operand => do
    let x ← call operand
    if x.isError then return x
    return .unary operator x
  | binary _ operator left right => do
    let l ← call left
    if l.isError then return l
    let r ← call right
    if r.isError then return r
    return .binary operator l r

/-- One call of writing the canonical form. -/
def renderBody (call : Expr → Option String) : Expr → Option String
  | int token _ => some token.text
  | unary _ operator operand => do
    let x ← call operand
    return "(" ++ operator ++ x ++ ")"
  | binary _ operator left right => do
    let l ← call left
    let r ← call right
    return "(" ++ l ++ operator ++ r ++ ")"

/-- One call of giving up a tree, which gives up its operands. -/
def dropBody (call : Expr → Option Unit) : Expr → Option Unit
  | int _ _ => some ()
  | unary _ _ operand => call operand
  | binary _ _ left right => do
    call left
    call right

theorem evalBody_computes : Computes evalBody eval := by
  intro e call agree
  cases e with
  | int => rfl
  | unary token operator operand =>
    rw [evalBody, agree operand (by simp [operands]), eval]
    cases failed : operand.eval.isError <;> simp [failed]
  | binary token operator left right =>
    rw [evalBody, agree left (by simp [operands]), agree right (by simp [operands]), eval]
    cases failedL : left.eval.isError with
    | true => simp [failedL]
    | false => cases failedR : right.eval.isError <;> simp [failedL, failedR]

theorem renderBody_computes : Computes renderBody render := by
  intro e call agree
  cases e with
  | int => rfl
  | unary token operator operand =>
    rw [renderBody, agree operand (by simp [operands])]
    rfl
  | binary token operator left right =>
    rw [renderBody, agree left (by simp [operands]), agree right (by simp [operands])]
    rfl

theorem dropBody_computes : Computes dropBody fun _ => () := by
  intro e call agree
  cases e with
  | int => rfl
  | unary token operator operand => exact agree operand (by simp [operands])
  | binary token operator left right =>
    rw [dropBody, agree left (by simp [operands]), agree right (by simp [operands])]
    rfl

end Expr

/-! ## Parsers at any depth -/

/-- The bound in closed form. -/
theorem sumHeight_add_three (n : Nat) : sumHeight (n + 3) = 3 + (n + 1) * (n + 2) / 2 :=
  (unaryHeight_add_four n).symm

theorem sumHeight_of_depth {depth : Nat} (shallow : depth ≤ 255) :
    sumHeight (depthLimit - depth) ≤
      if depth = 255 then 1 else 3 + (254 - depth) * (255 - depth) / 2 := by
  obtain rfl | rfl | deeper : depth = 255 ∨ depth = 254 ∨ depth ≤ 253 := by omega
  · decide
  · decide
  · obtain ⟨n, total⟩ := Nat.exists_eq_add_of_le' deeper
    have room : depthLimit - depth = n + 3 := by
      rw [depthLimit]
      omega
    have more : 254 - depth = n + 1 ∧ 255 - depth = n + 2 := by omega
    have other : depth ≠ 255 := by omega
    rw [if_neg other, room, more.1, more.2]
    exact Nat.le_of_eq (sumHeight_add_three n)

namespace Parser

variable {p : Parser} {e : Expr}

/-- An expression that a parser reads is within the bound for the levels that are left. -/
theorem height_le_of_expression {bound : Precedence} (tree : (p.expression bound).1 = some e) :
    e.height ≤ sumHeight p.room := by
  rw [expression] at tree
  split at tree
  · cases tree
  · have read := (height_invariant p.mark).expression p.room bound p.unread
    exact Nat.le_trans (read e tree) (heightBound_le p.room bound)

/-- So are all expressions that it reads. -/
theorem height_le_of_mem_line (mem : e ∈ p.line.1) : e.height ≤ sumHeight p.room := by
  rw [line] at mem
  split at mem
  · cases mem
  · exact Climb.height_le_of_mem_line mem

/-- The height of a tree that a parser gives is bounded by the depth that it is at, whatever is left
to be read.  So evaluating a tree of a line, writing its canonical form and giving it up have room
enough with 32388 calls under way. -/
theorem recursion_is_bounded :
    (∀ (p : Parser) (bound : Precedence), p.depth ≤ 255 →
      ∀ e, (p.expression bound).1 = some e →
        e.height ≤ if p.depth = 255 then 1 else 3 + (254 - p.depth) * (255 - p.depth) / 2) ∧
    ∀ p : Parser, ∀ e ∈ p.line.1,
      Expr.within Expr.evalBody 32388 e = some e.eval ∧
      Expr.within Expr.renderBody 32388 e = some e.render ∧
      Expr.within Expr.dropBody 32388 e = some () := by
  constructor
  · intro p bound shallow e tree
    exact Nat.le_trans (height_le_of_expression tree) (sumHeight_of_depth shallow)
  · intro p e mem
    have top : sumHeight depthLimit = 32388 := by decide
    have less : sumHeight p.room ≤ sumHeight depthLimit :=
      sumHeight_mono (Nat.sub_le depthLimit p.depth)
    have enough : e.height ≤ 32388 := top ▸ Nat.le_trans (height_le_of_mem_line mem) less
    exact ⟨Expr.evalBody_computes.within_eq enough, Expr.renderBody_computes.within_eq enough,
      Expr.dropBody_computes.within_eq enough⟩

/-- Two signs and an operator where three levels are left make a tree as high as there can be. -/
theorem recursion_is_bounded_at_last_levels :
    let p : Parser := { ofString "--1+1" with depth := 253 }
    ∃ e, p.depth ≤ 255 ∧ (p.expression .lowest).1 = some e ∧ e.height = 4 ∧
      e.height ≤ 3 + (254 - p.depth) * (255 - p.depth) / 2 := by
  intro p
  have read : (p.expression .lowest).1.map Expr.height = some 4 := by decide +kernel
  obtain ⟨e, tree, height⟩ := Option.map_eq_some_iff.1 read
  exact ⟨e, by decide, tree, height, recursion_is_bounded.1 p .lowest (by decide) e tree⟩

end Parser

end Abacus
