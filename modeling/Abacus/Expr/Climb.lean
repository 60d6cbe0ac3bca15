import Abacus.Diagnostic
import Abacus.Expr
import Abacus.Literal

/-!
# Reading expressions by precedence

An expression is an operand and the operators that fold it into larger ones.
`expression` reads the operand at the front of the tokens: a number, a minus
sign and its operand, or an expression in parentheses.  `fold` then goes on
for as long as an operator follows that binds tighter than a *bound*.  The
bound is what the reader of a right operand was called with, and it makes
operators of equal precedence group to the left.

*Recovery.*  A fault does not end the reading.  A number that is no literal, a
token that begins no operand and a parenthesis that is not closed are noted,
and the expression they are in has no tree.  The tokens after them are read as
they would be otherwise.  In particular a right operand is read even if the
left one has no tree, so that a bad literal is noted once.

*Depth.*  Every operand takes a level, and every operator folded takes one
more, until the expression is read.  `room` is the number of levels that are
left, and both functions are structural recursions on it.  When an operand or
an operator finds no room, that is noted as the last fault, and all tokens that
are left are skipped.

The tokens given are those before the end mark.  The mark itself is passed
along, because a fault found where nothing is left is placed there.

`expression_rest_suffix` says that reading an expression uses up at least one
token and changes none, so `line` reads expressions until nothing is left.
-/

namespace Abacus

/-! ## Precedence -/

/-- How tightly an operator binds. -/
inductive Precedence
  /-- No operator: everything binds tighter. -/
  | lowest
  /-- Addition and subtraction. -/
  | sum
  /-- Multiplication and division. -/
  | product
  /-- The sign before an operand. -/
  | sign
deriving DecidableEq, Repr

namespace Precedence

/-- The place of a precedence in their order. -/
def rank : Precedence → Nat
  | lowest => 0
  | sum => 1
  | product => 2
  | sign => 3

/-- The precedence of a kind of token between two operands. -/
def ofKind : Token.Kind → Precedence
  | .plus => sum
  | .minus => sum
  | .times => product
  | .divide => product
  | _ => lowest

end Precedence

namespace Climb

/-! ## What reading an expression leaves -/

/-- What is known after an expression was read. -/
structure Outcome where
  /-- The tree, if nothing was wrong with the expression. -/
  expr? : Option Expr
  /-- What was wrong, in the order in which it was found. -/
  faults : List Fault
  /-- The place of the last token used. -/
  last : Span
  /-- The tokens that are left. -/
  rest : List Token
  /-- Whether the rest of the line was skipped because there was no room. -/
  abandoned : Bool
deriving DecidableEq, Repr

/-- The token at the front, which is the end mark if nothing is left. -/
def front (mark : Token) (ts : List Token) : Token :=
  ts.head?.getD mark

/-- Gives up for want of room at a place, after the faults found so far. -/
def giveUp (mark : Token) (faults : List Fault) (place : Span) : Outcome :=
  ⟨none, faults ++ [⟨.tooDeep, place⟩], mark.span, [], true⟩

/-- The cause of a fault at a token that begins no operand. -/
def refusal (t : Token) : Cause :=
  if t.kind = .illegal then .illegal t.text else .noOperand t.kind

/-- Notes that a token begins no operand, and passes over it. -/
def refuse (t : Token) (rest : List Token) : Outcome :=
  ⟨none, [⟨refusal t, t.span⟩], t.span, rest, false⟩

/-- Reads a number. -/
def literal (t : Token) (rest : List Token) : Outcome :=
  match Literal.value? t.text with
  | some value => ⟨some (.int t value), [], t.span, rest, false⟩
  | none => ⟨none, [⟨.badLiteral t.text, t.span⟩], t.span, rest, false⟩

namespace Outcome

/-- Puts the operator token `t` before the expression read. -/
def negate (t : Token) (o : Outcome) : Outcome :=
  { o with expr? := o.expr?.map (.unary t t.text) }

/-- Closes the parenthesis around the expression read, or notes that it is not closed. -/
def close (mark : Token) (o : Outcome) : Outcome :=
  if (front mark o.rest).kind = .closing then
    { o with last := (front mark o.rest).span, rest := o.rest.tail }
  else if o.abandoned then
    { o with expr? := none }
  else
    { o with
      expr? := none
      faults := o.faults ++ [⟨.unclosed (front mark o.rest).kind, (front mark o.rest).span⟩] }

/-- Joins two expressions read by the operator token `t` between them. -/
def join (t : Token) (left right : Outcome) : Outcome :=
  { right with
    expr? := left.expr?.bind fun l => right.expr?.map fun r => .binary t t.text l r
    faults := left.faults ++ right.faults }

end Outcome

/-! ## Expressions -/

/-- The token at the front and what follows it, if it is an operator that binds tighter than a
bound. -/
def tighter? (bound : Precedence) : List Token → Option (Token × List Token)
  | [] => none
  | t :: ts => if bound.rank < (Precedence.ofKind t.kind).rank then some (t, ts) else none

mutual

/-- Reads an expression whose operators bind tighter than a bound. -/
def expression (mark : Token) : Nat → Precedence → List Token → Outcome
  | 0, _, ts => giveUp mark [] (front mark ts).span
  | _ + 1, _, [] => refuse mark []
  | room + 1, bound, t :: ts =>
    match t.kind with
    | .number => fold mark room bound (literal t ts)
    | .minus => fold mark room bound ((expression mark room .sign ts).negate t)
    | .opening => fold mark room bound ((expression mark room .lowest ts).close mark)
    | _ => refuse t ts

/-- Folds the operators that follow the expression read into it, as long as they bind tighter than
a bound. -/
def fold (mark : Token) (room : Nat) (bound : Precedence) (left : Outcome) : Outcome :=
  match tighter? bound left.rest, room with
  | none, _ => left
  | some _, 0 => giveUp mark left.faults left.last
  | some (t, ts), room + 1 =>
    fold mark room bound (left.join t (expression mark room (.ofKind t.kind) ts))

end

/-! ## Reading uses up tokens -/

theorem tighter?_eq_some {bound : Precedence} {ts us : List Token} {t : Token}
    (h : tighter? bound ts = some (t, us)) :
    ts = t :: us ∧ bound.rank < (Precedence.ofKind t.kind).rank := by
  cases ts with
  | nil => simp [tighter?] at h
  | cons u vs =>
    simp only [tighter?, Option.ite_none_right_eq_some, Option.some.injEq, Prod.mk.injEq] at h
    obtain ⟨hlt, rfl, rfl⟩ := h
    exact ⟨rfl, hlt⟩

@[simp] theorem literal_rest (t : Token) (ts : List Token) : (literal t ts).rest = ts := by
  unfold literal
  split <;> rfl

theorem Outcome.close_rest_suffix (mark : Token) (o : Outcome) :
    (o.close mark).rest <:+ o.rest := by
  unfold Outcome.close
  split
  · exact List.tail_suffix _
  · split <;> exact List.suffix_rfl

/-- Folding operators leaves a final part of what the expression left, if reading a right operand
with less room leaves a final part of its tokens. -/
theorem fold_rest_suffix_of (mark : Token) (room : Nat) (bound : Precedence) (left : Outcome)
    (right : ∀ r < room, ∀ p ts, (expression mark r p ts).rest <:+ ts.tail) :
    (fold mark room bound left).rest <:+ left.rest := by
  induction room generalizing left with
  | zero =>
    rw [fold.eq_def]
    split
    · exact List.suffix_rfl
    · exact List.nil_suffix
    · contradiction
  | succ room ih =>
    rw [fold.eq_def]
    split
    · exact List.suffix_rfl
    · contradiction
    · next t ts r h hr =>
      cases hr
      refine (ih (left.join t _) fun r hr => right r (Nat.lt_succ_of_lt hr)).trans ?_
      rw [(tighter?_eq_some h).1]
      exact ((right room room.lt_succ_self _ ts).trans (List.tail_suffix ts)).trans
        (List.suffix_cons t ts)

/-- What an expression leaves is a final part of what was there, without the first token. -/
theorem expression_rest_suffix (mark : Token) (room : Nat) (bound : Precedence)
    (ts : List Token) : (expression mark room bound ts).rest <:+ ts.tail := by
  induction room using Nat.strongRecOn generalizing bound ts with
  | ind room ih =>
    match room, ts with
    | 0, ts =>
      rw [expression]
      exact List.nil_suffix
    | room + 1, [] =>
      rw [expression]
      exact List.nil_suffix
    | room + 1, t :: ts =>
      have inner (p : Precedence) : (expression mark room p ts).rest <:+ ts :=
        (ih room room.lt_succ_self p ts).trans (List.tail_suffix ts)
      have outer (o : Outcome) (h : o.rest <:+ ts) : (fold mark room bound o).rest <:+ ts :=
        (fold_rest_suffix_of mark room bound o fun r hr => ih r (Nat.lt_succ_of_lt hr)).trans h
      rw [expression, List.tail_cons]
      split
      · exact outer _ ⟨[], literal_rest t ts⟩
      · exact outer _ (inner .sign)
      · exact outer _ ((Outcome.close_rest_suffix mark _).trans (inner .lowest))
      · exact List.suffix_rfl

/-- An expression uses up a token if there is one. -/
theorem expression_rest_length (mark : Token) (room : Nat) (bound : Precedence) (t : Token)
    (ts : List Token) : (expression mark room bound (t :: ts)).rest.length < (t :: ts).length :=
  Nat.lt_succ_of_le (expression_rest_suffix mark room bound (t :: ts)).length_le

/-! ## Lines -/

/-- What is known after a line was read. -/
structure Reading where
  /-- The trees of the expressions with which nothing was wrong. -/
  exprs : List Expr
  /-- What was wrong with the others, in the order in which it was found. -/
  faults : List Fault
  /-- Whether part of the line was skipped because there was no room. -/
  abandoned : Bool
deriving DecidableEq, Repr

/-- Puts what reading an expression gave before what reading the rest of the line gave. -/
def Reading.cons (o : Outcome) (r : Reading) : Reading :=
  ⟨o.expr?.toList ++ r.exprs, o.faults ++ r.faults, o.abandoned || r.abandoned⟩

/-- Reads expressions, each with the same room, until nothing is left. -/
def line (mark : Token) (room : Nat) : List Token → Reading
  | [] => ⟨[], [], false⟩
  | t :: ts =>
    let o := expression mark room .lowest (t :: ts)
    .cons o (line mark room o.rest)
termination_by ts => ts.length
decreasing_by exact expression_rest_length mark room .lowest t ts

end Climb

end Abacus
