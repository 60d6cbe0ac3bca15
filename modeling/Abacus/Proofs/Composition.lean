import Abacus.Proofs.Spelling

/-!
# The answer to a text put together

`interpret_compositional` says that texts with answers, put in parentheses and
joined by an operator, have the answer that the operator makes of theirs, or are
nested too deeply.  The parentheses keep the tokens of the parts as they are,
and keep the parts from being read at another precedence.  They cannot keep them
from being read at another depth.
-/

namespace Abacus

/-- The answer to a text is the given one, or there is too much nesting in it and nothing else is
wrong. -/
def AnswersOrTooDeep (source : String) (answer : Answer) : Prop :=
  interpret source = .ok (some answer) ∨
    ∃ fault, interpret source = .error [fault] ∧ fault.cause = .tooDeep

/-- A text that spells a phrase has the value of its tree as its answer, or is nested too deeply. -/
theorem Spells.answersOrTooDeep {source : String} {p : Phrase} {e : Expr}
    (h : Spells source.toList p e) : AnswersOrTooDeep source e.eval := by
  rw [AnswersOrTooDeep, interpret_eq_verdict]
  by_cases enough : p.need ≤ depthLimit
  · obtain ⟨clean, read, single, rfl⟩ := h.line_eq enough
    have value : read.eval = read.bare.eval := (Expr.eval_relocate _ read).symm
    exact .inl (Climb.Reading.verdict_eq_ok_some_iff.2 ⟨clean, read, single, value⟩)
  · obtain ⟨-, place, given⟩ := h.line_tooDeep (Nat.lt_of_not_le enough)
    have told : (Parser.reading source).faults = [⟨.tooDeep, place⟩] := given
    have faulty : (Parser.reading source).faults ≠ [] := by simp [told]
    refine .inr ⟨⟨.tooDeep, place⟩, ?_, rfl⟩
    rw [Climb.Reading.verdict_of_faults faulty, told]

/-! ## Answers put together -/

/-- The operators and what they make of two integers.  The operations wrap around, and division is
toward zero. -/
def Answer.operations : List (Char × (Int64 → Int64 → Answer)) :=
  [('+', fun l r => .ok (l + r)),
   ('-', fun l r => .ok (l - r)),
   ('*', fun l r => .ok (l * r)),
   ('/', fun l r => if r = 0 then .error .divisionByZero else .ok (l / r))]

/-- The answer that an operation makes of two answers.  A failure goes before it, the left one
first. -/
def Answer.combine (operation : Int64 → Int64 → Answer) : Answer → Answer → Answer
  | .error e, _ => .error e
  | .ok _, .error e => .error e
  | .ok l, .ok r => operation l r

/-- The answer with the opposite sign. -/
def Answer.negate : Answer → Answer
  | .error e => .error e
  | .ok value => .ok (-value)

theorem Expr.eval_binary (token : Token) {operator : String} {operation : Int64 → Int64 → Answer}
    (h : ∀ l r, applyBinary operator l r = operation l r) (left right : Expr) :
    (binary token operator left right).eval = Answer.combine operation left.eval right.eval := by
  rw [eval]
  cases left.eval with
  | error e => rfl
  | ok l =>
    cases right.eval with
    | error e => rfl
    | ok r => exact h l r

theorem Expr.eval_unary_minus (token : Token) (operand : Expr) :
    (unary token "-" operand).eval = operand.eval.negate := by
  rw [eval]
  cases operand.eval <;> rfl

theorem applyBinary_of_mem_operations {c : Char} {operation : Int64 → Int64 → Answer}
    (h : (c, operation) ∈ Answer.operations) :
    ∃ kind, Token.Kind.ofSymbol? c = some kind ∧ 0 < (Precedence.ofKind kind).rank ∧
      ∀ l r, Expr.applyBinary (.ofList [c]) l r = operation l r := by
  simp only [Answer.operations, List.mem_cons, Prod.mk.injEq, List.not_mem_nil, or_false] at h
  rcases h with ⟨rfl, rfl⟩ | ⟨rfl, rfl⟩ | ⟨rfl, rfl⟩ | ⟨rfl, rfl⟩
  · exact ⟨.plus, rfl, by decide, fun _ _ => rfl⟩
  · exact ⟨.minus, rfl, by decide, fun _ _ => rfl⟩
  · exact ⟨.times, rfl, by decide, fun _ _ => rfl⟩
  · exact ⟨.divide, rfl, by decide, fun _ _ => rfl⟩

/-- Interpretation is compositional.  Where two texts have answers, putting them in parentheses and
an operator between them gives what the operator makes of the answers.  A minus sign before the
first one gives its opposite, and parentheses alone give it unchanged.  In each case the only other
answer is that the text is nested too deeply. -/
theorem interpret_compositional {a b : String} {x y : Answer} (first : interpret a = .ok (some x))
    (second : interpret b = .ok (some y)) :
    (∀ c operation, (c, operation) ∈ Answer.operations →
      AnswersOrTooDeep ("(" ++ a ++ ")" ++ .ofList [c] ++ "(" ++ b ++ ")")
        (Answer.combine operation x y)) ∧
    AnswersOrTooDeep ("-(" ++ a ++ ")") x.negate ∧
    AnswersOrTooDeep ("(" ++ a ++ ")") x := by
  obtain ⟨p, e, spellsA, rfl⟩ := exists_spells_of_interpret first
  obtain ⟨q, f, spellsB, rfl⟩ := exists_spells_of_interpret second
  refine ⟨fun c operation mem => ?_, ?_, ?_⟩
  · obtain ⟨kind, symbol, binary, applies⟩ := applyBinary_of_mem_operations mem
    rw [← Expr.eval_binary (.ofSymbol kind c) applies e f]
    apply Spells.answersOrTooDeep
    simpa using spellsA.operation spellsB symbol binary
  · rw [← Expr.eval_unary_minus (.ofSymbol .minus '-') e]
    apply Spells.answersOrTooDeep
    simpa using spellsA.grouped.negation spellsA.derives_grouped
  · apply Spells.answersOrTooDeep
    simpa using spellsA.grouped

/-- The failure of a part is the answer to the whole. -/
theorem interpret_product_of_failure :
    interpret "1 + 2" = .ok (some (.ok 3)) ∧
    interpret "6/0" = .ok (some (.error .divisionByZero)) ∧
    AnswersOrTooDeep "(1 + 2)*(6/0)" (.error .divisionByZero) ∧
    AnswersOrTooDeep "-(1 + 2)" (.ok (-3)) ∧ AnswersOrTooDeep "(1 + 2)" (.ok 3) := by
  let sum : Expr := .binary ⟨.plus, "+", ⟨2, 3⟩⟩ "+" (.int ⟨.number, "1", ⟨0, 1⟩⟩ 1)
    (.int ⟨.number, "2", ⟨4, 5⟩⟩ 2)
  let quotient : Expr := .binary ⟨.divide, "/", ⟨1, 2⟩⟩ "/" (.int ⟨.number, "6", ⟨0, 1⟩⟩ 6)
    (.int ⟨.number, "0", ⟨2, 3⟩⟩ 0)
  have readSum : Parser.reading "1 + 2" = ⟨[sum], [], false⟩ := by decide +kernel
  have readQuotient : Parser.reading "6/0" = ⟨[quotient], [], false⟩ := by decide +kernel
  have first : interpret "1 + 2" = .ok (some (.ok 3)) := by
    rw [interpret_eq_verdict, readSum]
    rfl
  have second : interpret "6/0" = .ok (some (.error .divisionByZero)) := by
    rw [interpret_eq_verdict, readQuotient]
    rfl
  have product : ('*', fun l r => .ok (l * r)) ∈ Answer.operations := .tail _ (.tail _ (.head _))
  obtain ⟨joined, negated, alone⟩ := interpret_compositional first second
  exact ⟨first, second, joined '*' _ product, negated, alone⟩

end Abacus
