import Abacus.Expr.Parser

/-!
# What a parser keeps

A parser that is asked for an expression may tell of faults, pass over tokens and
give up.  All else about it stays as it was, and so does what it told before and what
it did not pass over.  `Frame` says this of a parser and of what becomes of it.  It
holds of each expression (`expression_frame`), and frames can be put together, so that
it holds of everything that is made of expressions.

An expression passes over a token if there is one (`expression_unread_suffix`), even
where it only finds that the token begins no operand or that the line was given up.
So nothing is left at last if one expression is asked for after another, and what
holds there and is carried back over each of them always holds (`byExpressions`).
-/

namespace Abacus

namespace Parser

/-- What a parser keeps: `after` is `before`, further on. -/
structure Frame (before after : Parser) : Prop where
  /-- The end mark is the same. -/
  mark : after.mark = before.mark
  /-- The parser is inside of as many levels. -/
  depth : after.depth = before.depth
  /-- What was told before is told still, and comes first. -/
  told : before.faults <+: after.faults
  /-- A parser that gave up does not go on. -/
  abandoned : before.abandoned = true → after.abandoned = true
  /-- Some tokens were passed over, and all others are left. -/
  unread : after.unread <:+ before.unread

namespace Frame

theorem refl (p : Parser) : p.Frame p :=
  ⟨rfl, rfl, List.prefix_rfl, id, List.suffix_rfl⟩

theorem trans {p q r : Parser} (first : p.Frame q) (second : q.Frame r) : p.Frame r where
  mark := second.mark.trans first.mark
  depth := second.depth.trans first.depth
  told := first.told.trans second.told
  abandoned := second.abandoned ∘ first.abandoned
  unread := second.unread.trans first.unread

end Frame

variable {p : Parser}

theorem expression_of_going (going : p.abandoned = false) (bound : Precedence) :
    p.expression bound =
      ((Climb.expression p.mark p.room bound p.unread).expr?,
        { p with
          unread := (Climb.expression p.mark p.room bound p.unread).rest
          faults := p.faults ++ (Climb.expression p.mark p.room bound p.unread).faults
          abandoned := (Climb.expression p.mark p.room bound p.unread).abandoned }) := by
  rw [expression, going, if_neg Bool.false_ne_true]

theorem expression_of_abandoned (gaveUp : p.abandoned = true) (bound : Precedence) :
    p.expression bound = (none, { p with unread := p.unread.tail }) := by
  rw [expression, if_pos gaveUp]

/-- Asking for an expression passes over a token if there is one. -/
theorem expression_unread_suffix (p : Parser) (bound : Precedence) :
    (p.expression bound).2.unread <:+ p.unread.tail := by
  cases going : p.abandoned with
  | true =>
    have passed := congrArg (·.2.unread) (expression_of_abandoned going bound)
    exact passed ▸ List.suffix_rfl
  | false =>
    rw [expression_of_going going]
    exact Climb.expression_rest_suffix p.mark p.room bound p.unread

theorem length_unread_expression_lt (left : p.unread ≠ []) (bound : Precedence) :
    (p.expression bound).2.unread.length < p.unread.length := by
  have used := (expression_unread_suffix p bound).length_le
  rw [List.length_tail] at used
  exact Nat.lt_of_le_of_lt used (Nat.sub_lt (List.length_pos_iff.2 left) Nat.one_pos)

/-- What holds of a parser with nothing left, and of one with a token left if it holds after an
expression, holds of every parser.  Every expression passes over a token, so that the induction is
on how many are left. -/
theorem byExpressions {P : Parser → Prop} (done : ∀ p, p.unread = [] → P p)
    (step : ∀ p, p.unread ≠ [] → P (p.expression .lowest).2 → P p) (p : Parser) : P p := by
  induction count : p.unread.length using Nat.strongRecOn generalizing p with
  | ind count' ih =>
    by_cases exhausted : p.unread = []
    · exact done p exhausted
    · exact step p exhausted (ih _ (count ▸ length_unread_expression_lt exhausted .lowest) _ rfl)

/-- Asking for an expression keeps a parser in its frame. -/
theorem expression_frame (p : Parser) (bound : Precedence) : p.Frame (p.expression bound).2 := by
  have unread := (expression_unread_suffix p bound).trans (List.tail_suffix p.unread)
  cases going : p.abandoned with
  | true =>
    rw [expression_of_abandoned going] at unread ⊢
    exact ⟨rfl, rfl, List.prefix_rfl, id, unread⟩
  | false =>
    rw [expression_of_going going] at unread ⊢
    refine ⟨rfl, rfl, List.prefix_append .., ?_, unread⟩
    intro gaveUp
    rw [going] at gaveUp
    cases gaveUp

end Parser

end Abacus
