import Abacus.Expr.Climb

/-!
# What the reader of expressions does

The reader as equations, one for each thing that it can do, so that no proof has
to open its definition.

*Operators.*  `nextRank` is how tightly the next token binds as an operator.
`fold` stops where that is not above the bound (`fold_of_nextRank_le`), gives up
at an operator without room (`fold_zero`), and else folds it (`fold_succ`).

*Operands.*  A number, a minus sign and a parenthesis begin an operand, with
which `fold` goes on.  Anything else is refused.

*Induction.*  An `Invariant` is a relation for `expression` and one for `fold`
that hold of the results if they hold step by step.  `Invariant.expression` says
that then they always hold.  This is the induction on the room, and on the room
inside of it for `fold`, made once.

*Causes.*  `Every` says that the causes of all faults have a property.  It is kept
where a parenthesis is closed, and holds of what a single token is told for, if
the causes that may be noted there have it.
-/

namespace Abacus

theorem Precedence.ofKind_rank_le_two (kind : Token.Kind) : (ofKind kind).rank ≤ 2 := by
  cases kind <;> decide

/-- A kind of token that binds is none that does not. -/
theorem Precedence.ne_of_binds {kind other : Token.Kind} (binds : 0 < (ofKind kind).rank)
    (lax : (ofKind other).rank = 0) : kind ≠ other := by
  rintro rfl
  exact absurd lax (Nat.ne_of_gt binds)

namespace Climb

/-! ## The next operator -/

/-- How tightly the token at the front binds as an operator. -/
def nextRank : List Token → Nat
  | [] => 0
  | t :: _ => (Precedence.ofKind t.kind).rank

@[simp] theorem nextRank_cons (t : Token) (ts : List Token) :
    nextRank (t :: ts) = (Precedence.ofKind t.kind).rank := rfl

theorem nextRank_le_two : ∀ ts : List Token, nextRank ts ≤ 2
  | [] => Nat.zero_le 2
  | t :: _ => Precedence.ofKind_rank_le_two t.kind

theorem nextRank_le_of_ofKind_eq {t : Token} {level : Precedence} (ts : List Token)
    (kind : Precedence.ofKind t.kind = level) : nextRank (t :: ts) ≤ level.rank :=
  Nat.le_of_eq (congrArg Precedence.rank kind)

theorem nextRank_closing {t : Token} (kind : t.kind = .closing) (ts : List Token) :
    nextRank (t :: ts) ≤ Precedence.lowest.rank :=
  nextRank_le_of_ofKind_eq ts (congrArg Precedence.ofKind kind)

/-- An operator that binds tighter than a bound stands at the front, or there is none. -/
theorem nextRank_le_or (bound : Precedence) (ts : List Token) :
    nextRank ts ≤ bound.rank ∨
      ∃ t us, ts = t :: us ∧ bound.rank < (Precedence.ofKind t.kind).rank := by
  cases ts with
  | nil => exact .inl (Nat.zero_le _)
  | cons t us =>
    rcases Nat.lt_or_ge bound.rank (Precedence.ofKind t.kind).rank with lt | le
    · exact .inr ⟨t, us, rfl, lt⟩
    · exact .inl le

theorem tighter?_eq_none {bound : Precedence} {ts : List Token} (h : nextRank ts ≤ bound.rank) :
    tighter? bound ts = none := by
  cases ts with
  | nil => rfl
  | cons t ts =>
    rw [nextRank] at h
    rw [tighter?, if_neg (Nat.not_lt.2 h)]

theorem tighter?_cons {bound : Precedence} {t : Token} (ts : List Token)
    (h : bound.rank < (Precedence.ofKind t.kind).rank) :
    tighter? bound (t :: ts) = some (t, ts) := by
  rw [tighter?, if_pos h]

section

variable {mark : Token} {room : Nat} {bound : Precedence} {left : Outcome} {t : Token}
  {ts : List Token}

/-- Nothing is folded where no tighter operator follows. -/
theorem fold_of_nextRank_le (h : nextRank left.rest ≤ bound.rank) :
    fold mark room bound left = left := by
  rw [fold.eq_def, tighter?_eq_none h]

/-- A tighter operator that finds no room is the end of the line. -/
theorem fold_zero (next : left.rest = t :: ts)
    (lt : bound.rank < (Precedence.ofKind t.kind).rank) :
    fold mark 0 bound left = giveUp mark left.faults left.last := by
  rw [fold.eq_def, next, tighter?_cons ts lt]

/-- A tighter operator is folded where there is room. -/
theorem fold_succ (next : left.rest = t :: ts)
    (lt : bound.rank < (Precedence.ofKind t.kind).rank) :
    fold mark (room + 1) bound left =
      fold mark room bound (left.join t (expression mark room (.ofKind t.kind) ts)) := by
  rw [fold.eq_def, next, tighter?_cons ts lt]

/-! ## Operands -/

theorem expression_number (ts : List Token) (kind : t.kind = .number) :
    expression mark (room + 1) bound (t :: ts) = fold mark room bound (literal t ts) := by
  simp only [expression, kind]

theorem expression_minus (ts : List Token) (kind : t.kind = .minus) :
    expression mark (room + 1) bound (t :: ts) =
      fold mark room bound ((expression mark room .sign ts).negate t) := by
  simp only [expression, kind]

theorem expression_opening (ts : List Token) (kind : t.kind = .opening) :
    expression mark (room + 1) bound (t :: ts) =
      fold mark room bound ((expression mark room .lowest ts).close mark) := by
  simp only [expression, kind]

/-- Whether a kind of token begins an operand. -/
def Starts (kind : Token.Kind) : Prop :=
  kind = .number ∨ kind = .minus ∨ kind = .opening

theorem expression_refuse (ts : List Token) (kind : ¬ Starts t.kind) :
    expression mark (room + 1) bound (t :: ts) = refuse t ts := by
  unfold Starts at kind
  rw [expression]
  split
  · exact absurd (.inl ‹_›) kind
  · exact absurd (.inr (.inl ‹_›)) kind
  · exact absurd (.inr (.inr ‹_›)) kind
  · rfl

/-- A closing parenthesis at the front is a token that is left. -/
theorem exists_closing_of_front (eof : mark.kind = .eof)
    (closed : (front mark ts).kind = .closing) :
    ∃ closing us, ts = closing :: us ∧ closing.kind = .closing := by
  cases ts with
  | nil => exact absurd (eof.symm.trans closed) (by decide)
  | cons closing us => exact ⟨closing, us, rfl, closed⟩

theorem close_of_closing {o : Outcome} (closed : (front mark o.rest).kind = .closing) :
    o.close mark = { o with last := (front mark o.rest).span, rest := o.rest.tail } := by
  rw [Outcome.close, if_pos closed]

theorem close_of_abandoned {o : Outcome} (unclosed : (front mark o.rest).kind ≠ .closing)
    (abandoned : o.abandoned = true) : o.close mark = { o with expr? := none } := by
  rw [Outcome.close, if_neg unclosed, if_pos abandoned]

theorem close_of_ne_closing {o : Outcome} (unclosed : (front mark o.rest).kind ≠ .closing)
    (going : o.abandoned = false) :
    o.close mark = { o with
      expr? := none
      faults := o.faults ++
        [⟨.unclosed (front mark o.rest).kind, (front mark o.rest).span⟩] } := by
  rw [Outcome.close, if_neg unclosed, going, if_neg Bool.false_ne_true]

end

/-! ## Causes -/

/-- The causes of all faults have a property. -/
def Every (P : Cause → Prop) (fs : List Fault) : Prop :=
  ∀ f ∈ fs, P f.cause

section

variable {P : Cause → Prop}

theorem Every.nil : Every P [] := by
  intro f mem
  cases mem

theorem Every.singleton {f : Fault} (h : P f.cause) : Every P [f] := by
  intro g mem
  cases List.mem_singleton.1 mem
  exact h

theorem Every.append {fs gs : List Fault} (h : Every P fs) (h' : Every P gs) :
    Every P (fs ++ gs) := by
  intro f mem
  rcases List.mem_append.1 mem with first | second
  · exact h f first
  · exact h' f second

theorem every_refuse (illegal : ∀ text, P (.illegal text))
    (noOperand : ∀ found, P (.noOperand found)) (t : Token) (rest : List Token) :
    Every P (refuse t rest).faults := by
  refine .singleton ?_
  show P (refusal t)
  unfold refusal
  split
  · exact illegal t.text
  · exact noOperand t.kind

theorem every_literal (badLiteral : ∀ text, P (.badLiteral text)) (t : Token)
    (rest : List Token) : Every P (literal t rest).faults := by
  unfold literal
  split
  · exact .nil
  · exact .singleton (badLiteral t.text)

theorem Every.close (unclosed : ∀ found, P (.unclosed found)) (mark : Token) {o : Outcome}
    (h : Every P o.faults) : Every P (o.close mark).faults := by
  unfold Outcome.close
  split
  · exact h
  · split
    · exact h
    · exact h.append (.singleton (unclosed _))

end

/-! ## Induction -/

/-- A relation between what an expression is read with and what that gives, and one between what is
gone on with and what that gives, which hold if they hold of each step. -/
structure Invariant (mark : Token) (Read : Nat → Precedence → List Token → Outcome → Prop)
    (Gone : Nat → Precedence → Outcome → Outcome → Prop) : Prop where
  /-- There is no room for an operand. -/
  lacking : ∀ bound ts, Read 0 bound ts (giveUp mark [] (front mark ts).span)
  /-- Nothing is left where an operand has to begin. -/
  missing : ∀ room bound, Read (room + 1) bound [] (refuse mark [])
  /-- The next token begins no operand. -/
  refused : ∀ room bound t ts, ¬ Starts t.kind → Read (room + 1) bound (t :: ts) (refuse t ts)
  /-- The operand is a number. -/
  number : ∀ room bound t ts o, t.kind = .number → Gone room bound (literal t ts) o →
    Read (room + 1) bound (t :: ts) o
  /-- The operand begins with a minus sign. -/
  minus : ∀ room bound t ts o, t.kind = .minus →
    Read room .sign ts (expression mark room .sign ts) →
    Gone room bound ((expression mark room .sign ts).negate t) o → Read (room + 1) bound (t :: ts) o
  /-- The operand begins with a parenthesis. -/
  opening : ∀ room bound t ts o, t.kind = .opening →
    Read room .lowest ts (expression mark room .lowest ts) →
    Gone room bound ((expression mark room .lowest ts).close mark) o →
    Read (room + 1) bound (t :: ts) o
  /-- No tighter operator follows. -/
  stop : ∀ room bound left, nextRank left.rest ≤ bound.rank → Gone room bound left left
  /-- There is no room for a tighter operator. -/
  full : ∀ bound left t ts, left.rest = t :: ts → bound.rank < (Precedence.ofKind t.kind).rank →
    Gone 0 bound left (giveUp mark left.faults left.last)
  /-- A tighter operator is folded. -/
  step : ∀ room bound left t ts o, left.rest = t :: ts →
    bound.rank < (Precedence.ofKind t.kind).rank →
    Read room (.ofKind t.kind) ts (expression mark room (.ofKind t.kind) ts) →
    Gone room bound (left.join t (expression mark room (.ofKind t.kind) ts)) o →
    Gone (room + 1) bound left o

namespace Invariant

variable {mark : Token} {Read : Nat → Precedence → List Token → Outcome → Prop}
  {Gone : Nat → Precedence → Outcome → Outcome → Prop}

theorem fold_of (h : Invariant mark Read Gone) {room : Nat} (bound : Precedence) (left : Outcome)
    (right : ∀ less < room, ∀ b ts, Read less b ts (Climb.expression mark less b ts)) :
    Gone room bound left (Climb.fold mark room bound left) := by
  induction room generalizing left with
  | zero =>
    rcases nextRank_le_or bound left.rest with stops | ⟨t, ts, next, lt⟩
    · rw [fold_of_nextRank_le stops]
      exact h.stop 0 bound left stops
    · rw [fold_zero next lt]
      exact h.full bound left t ts next lt
  | succ room ih =>
    rcases nextRank_le_or bound left.rest with stops | ⟨t, ts, next, lt⟩
    · rw [fold_of_nextRank_le stops]
      exact h.stop (room + 1) bound left stops
    · rw [fold_succ next lt]
      exact h.step room bound left t ts _ next lt (right room room.lt_succ_self _ ts)
        (ih _ fun less lt => right less (Nat.lt_succ_of_lt lt))

/-- An invariant holds of what reading an expression gives. -/
theorem expression (h : Invariant mark Read Gone) (room : Nat) (bound : Precedence)
    (ts : List Token) : Read room bound ts (Climb.expression mark room bound ts) := by
  induction room using Nat.strongRecOn generalizing bound ts with
  | ind room ih =>
    match room, ts with
    | 0, ts =>
      rw [Climb.expression]
      exact h.lacking bound ts
    | room + 1, [] =>
      rw [Climb.expression]
      exact h.missing room bound
    | room + 1, t :: ts =>
      have right : ∀ less < room, ∀ b us, Read less b us (Climb.expression mark less b us) :=
        fun less lt => ih less (Nat.lt_succ_of_lt lt)
      by_cases starts : Starts t.kind
      · rcases starts with kind | kind | kind
        · rw [expression_number ts kind]
          exact h.number room bound t ts _ kind (h.fold_of bound _ right)
        · rw [expression_minus ts kind]
          exact h.minus room bound t ts _ kind (ih room room.lt_succ_self .sign ts)
            (h.fold_of bound _ right)
        · rw [expression_opening ts kind]
          exact h.opening room bound t ts _ kind (ih room room.lt_succ_self .lowest ts)
            (h.fold_of bound _ right)
      · rw [expression_refuse ts starts]
        exact h.refused room bound t ts starts

end Invariant

end Climb

end Abacus
