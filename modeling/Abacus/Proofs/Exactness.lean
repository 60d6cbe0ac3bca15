import Abacus.Proofs.Failure
import Mathlib.Data.Int.ModEq

/-!
# Wrapping around and exact values

The *exact* value of a tree is its value in integers without a bound.  Evaluation
wraps around at every operator, and the answer is still the exact value wrapped
around once, because wrapping around is a homomorphism of rings.

Division is none.  It commutes with wrapping around where its operands fit and
the divisor is not zero, so this is what `DividesFitting` asks of every division,
and of nothing else.  The quotient need not fit: that of the least integer by
minus one does not, and it is wrapped around as any other value.

`eval_eq_ofInt_exact` is the induction on the tree.  `eval_agrees_with_exact` says
the same in congruences.
-/

namespace Abacus

/-- The integer is one of 64 bits. -/
def Fits (n : Int) : Prop :=
  -2 ^ 63 ≤ n ∧ n < 2 ^ 63

instance (n : Int) : Decidable (Fits n) :=
  inferInstanceAs (Decidable (_ ∧ _))

theorem fits_toInt (value : Int64) : Fits value.toInt :=
  ⟨value.le_toInt, value.toInt_lt⟩

theorem Fits.toInt_ofInt {n : Int} (h : Fits n) : (Int64.ofInt n).toInt = n :=
  Int64.toInt_ofInt_of_le h.1 h.2

theorem toInt_ofInt_modEq (n : Int) : (Int64.ofInt n).toInt ≡ n [ZMOD 2 ^ 64] := by
  rw [Int64.toInt_ofInt]
  exact Int.bmod_emod

theorem ofInt_eq_of_modEq {m n : Int} (h : m ≡ n [ZMOD 2 ^ 64]) :
    Int64.ofInt m = Int64.ofInt n := by
  rw [← Int64.toInt_inj, Int64.toInt_ofInt, Int64.toInt_ofInt, ← Int.emod_bmod m,
    ← Int.emod_bmod n]
  exact congrArg (Int.bmod · Int64.size) h

/-- The value is the one integer of 64 bits that is congruent to the given one. -/
def Wraps (n : Int) (value : Int64) : Prop :=
  ∀ m, (Fits m ∧ m ≡ n [ZMOD 2 ^ 64]) ↔ m = value.toInt

theorem wraps_ofInt (n : Int) : Wraps n (.ofInt n) := by
  intro m
  constructor
  · rintro ⟨fits, congruent⟩
    rw [← ofInt_eq_of_modEq congruent, fits.toInt_ofInt]
  · rintro rfl
    exact ⟨fits_toInt _, toInt_ofInt_modEq n⟩

/-- Division commutes with wrapping around where its operands fit. -/
theorem Fits.ofInt_tdiv {m n : Int} (hm : Fits m) (hn : Fits n) :
    Int64.ofInt (m.tdiv n) = Int64.ofInt m / Int64.ofInt n := by
  obtain ⟨lowM, highM⟩ := hm
  obtain ⟨lowN, highN⟩ := hn
  have least : Int64.minValue.toInt = -2 ^ 63 := rfl
  have greatest : Int64.maxValue.toInt = 2 ^ 63 - 1 := rfl
  exact Int64.ofInt_tdiv (least ▸ lowM) (by omega) (least ▸ lowN) (by omega)

theorem Fits.ofInt_ne_zero {n : Int} (h : Fits n) (ne : n ≠ 0) : Int64.ofInt n ≠ 0 := by
  intro zero
  have same := h.toInt_ofInt
  rw [zero] at same
  exact ne same.symm

namespace Expr

/-! ## Exact values -/

/-- The value of a tree of arithmetic operators in integers without a bound, with division toward
zero. -/
def exact : Expr → Int
  | int _ value => value.toInt
  | unary _ _ operand => -operand.exact
  | binary _ operator left right =>
    if operator = "+" then left.exact + right.exact
    else if operator = "-" then left.exact - right.exact
    else if operator = "*" then left.exact * right.exact
    else left.exact.tdiv right.exact

/-- The operators of the tree are a minus sign before one operand and the four between two. -/
structure IsArithmetic (e : Expr) : Prop where
  /-- The operator before an operand is a minus sign. -/
  unary : ∀ token operator operand, .unary token operator operand ∈ e.nodes → operator = "-"
  /-- The operator between two operands is one of the four. -/
  binary : ∀ token operator left right, .binary token operator left right ∈ e.nodes →
    operator ∈ ["+", "-", "*", "/"]

/-- The exact values of the operands of every division fit, and no divisor is zero. -/
def DividesFitting (e : Expr) : Prop :=
  ∀ token left right, .binary token "/" left right ∈ e.nodes →
    Fits left.exact ∧ Fits right.exact ∧ right.exact ≠ 0

theorem IsArithmetic.mono {d e : Expr} (h : e.IsArithmetic) (sub : d.nodes ⊆ e.nodes) :
    d.IsArithmetic where
  unary token operator operand mem := h.unary token operator operand (sub mem)
  binary token operator left right mem := h.binary token operator left right (sub mem)

theorem DividesFitting.mono {d e : Expr} (h : e.DividesFitting) (sub : d.nodes ⊆ e.nodes) :
    d.DividesFitting :=
  fun token left right mem => h token left right (sub mem)

theorem self_mem_nodes (e : Expr) : e ∈ e.nodes := by
  cases e with
  | int => exact List.mem_singleton_self _
  | unary => exact List.mem_append_right _ (List.mem_singleton_self _)
  | binary =>
    exact List.mem_append_right _ (List.mem_append_right _ (List.mem_singleton_self _))

section

variable (token : Token) (operator : String) (operand left right : Expr)

theorem operand_nodes_subset : operand.nodes ⊆ (unary token operator operand).nodes :=
  List.subset_append_left _ _

theorem left_nodes_subset : left.nodes ⊆ (binary token operator left right).nodes :=
  List.subset_append_left _ _

theorem right_nodes_subset : right.nodes ⊆ (binary token operator left right).nodes :=
  fun _ mem => List.mem_append_right _ (List.mem_append_left _ mem)

end

/-- The nodes of a node are nodes of the tree. -/
theorem nodes_subset_of_mem {d e : Expr} (mem : d ∈ e.nodes) : d.nodes ⊆ e.nodes := by
  induction e with
  | int =>
    cases List.mem_singleton.1 mem
    exact List.Subset.refl _
  | unary token operator operand ih =>
    rcases List.mem_append.1 mem with below | root
    · exact List.Subset.trans (ih below) (operand_nodes_subset token operator operand)
    · cases List.mem_singleton.1 root
      exact List.Subset.refl _
  | binary token operator left right ihl ihr =>
    rcases List.mem_append.1 mem with below | mem
    · exact List.Subset.trans (ihl below) (left_nodes_subset token operator left right)
    · rcases List.mem_append.1 mem with below | root
      · exact List.Subset.trans (ihr below) (right_nodes_subset token operator left right)
      · cases List.mem_singleton.1 root
        exact List.Subset.refl _

/-! ## Answers -/

/-- An operator between two wrapped integers gives the wrapped result, if a division is of integers
that fit by one that is not zero. -/
theorem applyBinary_ofInt (token : Token) {operator : String} (left right : Expr)
    (known : operator ∈ ["+", "-", "*", "/"])
    (divides : operator = "/" → Fits left.exact ∧ Fits right.exact ∧ right.exact ≠ 0) :
    applyBinary operator (.ofInt left.exact) (.ofInt right.exact) =
      .ok (.ofInt (binary token operator left right).exact) := by
  simp only [List.mem_cons, List.not_mem_nil, or_false] at known
  rcases known with rfl | rfl | rfl | rfl
  · exact congrArg Except.ok (Int64.ofInt_add left.exact right.exact).symm
  · exact congrArg Except.ok (Int64.ofInt_sub left.exact right.exact).symm
  · exact congrArg Except.ok (Int64.ofInt_mul left.exact right.exact).symm
  · obtain ⟨fitsL, fitsR, ne⟩ := divides rfl
    rw [applyBinary_divide (fitsR.ofInt_ne_zero ne), ← fitsL.ofInt_tdiv fitsR]
    rfl

/-- The answer to a tree is its exact value, wrapped around. -/
theorem eval_eq_ofInt_exact {e : Expr} (known : e.IsArithmetic) (divides : e.DividesFitting) :
    e.eval = .ok (.ofInt e.exact) := by
  induction e with
  | int token value => exact congrArg Except.ok (Int64.ofInt_toInt value).symm
  | unary token operator operand ih =>
    have below := operand_nodes_subset token operator operand
    have answer := ih (known.mono below) (divides.mono below)
    cases known.unary token operator operand (self_mem_nodes _)
    rw [eval_unary_of_ok token "-" answer, exact, Int64.ofInt_neg]
    rfl
  | binary token operator left right ihl ihr =>
    have belowL := left_nodes_subset token operator left right
    have belowR := right_nodes_subset token operator left right
    have answerL := ihl (known.mono belowL) (divides.mono belowL)
    have answerR := ihr (known.mono belowR) (divides.mono belowR)
    rw [eval_binary_of_ok token operator answerL answerR]
    refine applyBinary_ofInt token left right
      (known.binary token operator left right (self_mem_nodes _)) ?_
    rintro rfl
    exact divides token left right (self_mem_nodes _)

/-- The answer to a tree of arithmetic operators is the one integer of 64 bits that is congruent to
its exact value, if the operands of divisions fit and no divisor is zero.  So it is if nothing is
divided, whatever the values are, and if all values fit the answer is the exact value itself. -/
theorem eval_agrees_with_exact {e : Expr} (known : e.IsArithmetic) :
    (e.DividesFitting → ∃ value, e.eval = .ok value ∧ Wraps e.exact value) ∧
    ((∀ token left right, .binary token "/" left right ∉ e.nodes) →
      ∃ value, e.eval = .ok value ∧ Wraps e.exact value) ∧
    ((∀ n ∈ e.nodes, Fits n.exact) →
      (∀ token left right, .binary token "/" left right ∈ e.nodes → right.exact ≠ 0) →
      ∃ value, e.eval = .ok value ∧ value.toInt = e.exact) := by
  refine ⟨?_, ?_, ?_⟩
  · intro divides
    exact ⟨_, eval_eq_ofInt_exact known divides, wraps_ofInt _⟩
  · intro undivided
    have divides : e.DividesFitting := fun token left right mem =>
      absurd mem (undivided token left right)
    exact ⟨_, eval_eq_ofInt_exact known divides, wraps_ofInt _⟩
  · intro fit nonzero
    have divides : e.DividesFitting := by
      intro token left right mem
      have below := nodes_subset_of_mem mem
      have memL := below (left_nodes_subset token "/" left right (self_mem_nodes left))
      have memR := below (right_nodes_subset token "/" left right (self_mem_nodes right))
      exact ⟨fit left memL, fit right memR, nonzero token left right mem⟩
    exact ⟨_, eval_eq_ofInt_exact known divides, (fit e (self_mem_nodes e)).toInt_ofInt⟩

/-- The least integer is divided by minus one, and the square of the greatest one is added. -/
theorem eval_agrees_with_exact_overflowing :
    let t : Token := ⟨.number, "1", ⟨0, 1⟩⟩
    let quotient : Expr := binary t "/" (int t Int64.minValue) (int t (-1))
    let square : Expr := binary t "*" (int t Int64.maxValue) (int t Int64.maxValue)
    let tree : Expr := unary t "-" (binary t "+" quotient square)
    tree.IsArithmetic ∧ tree.DividesFitting ∧ tree.exact = -(2 ^ 63 + (2 ^ 63 - 1) ^ 2) ∧
      tree.eval = .ok Int64.maxValue ∧ Wraps tree.exact Int64.maxValue := by
  intro t quotient square tree
  have known : tree.IsArithmetic := by
    constructor
    · intro token operator operand mem
      simp [tree, quotient, square, nodes] at mem
      exact mem.2.1
    · intro token operator left right mem
      simp [tree, quotient, square, nodes] at mem
      rcases mem with ⟨-, rfl, -⟩ | ⟨-, rfl, -⟩ | ⟨-, rfl, -⟩ <;> decide
  have divides : tree.DividesFitting := by
    intro token left right mem
    simp [tree, quotient, square, nodes] at mem
    obtain ⟨-, rfl, rfl⟩ := mem
    decide
  have answer : tree.eval = .ok Int64.maxValue := by decide
  obtain ⟨value, same, wraps⟩ := (eval_agrees_with_exact known).1 divides
  rw [answer] at same
  cases same
  exact ⟨known, divides, by decide, answer, wraps⟩

end Expr

end Abacus
