import Abacus.Proofs.Derivable

/-!
# What is read without a fault

The reader of expressions either *finds* a phrase, with which nothing is wrong,
or it *fails*: it gives no tree and at least one fault (`expression_settles`).
What it finds is derived by the rules at a level above its bound, is made of the
tokens that were used, and takes no more levels than there was room for.

The steps are those of an `Invariant`.  While operators are folded, a level of
the phrase found so far is kept at which the rules derive it and which nothing
that follows binds tighter than.  That is what makes the next operator
applicable: the rules have no product with a sum as its left operand, and a sum
is never met before `*`, because its right operand would have taken that
operator.
-/

namespace Abacus

/-- A phrase that is derived at a level is derived at every looser one. -/
theorem Phrase.Derives.of_rank_le {level looser : Precedence} {p : Phrase} (h : p.Derives level)
    (le : looser.rank ≤ level.rank) (ne : looser ≠ .lowest) : p.Derives looser := by
  cases looser with
  | lowest => exact absurd rfl ne
  | sum =>
    cases level with
    | lowest => simp [Precedence.rank] at le
    | sum => exact h
    | product => exact .product h
    | sign => exact .product (.unary h)
  | product =>
    cases level with
    | lowest | sum => simp [Precedence.rank] at le
    | product => exact h
    | sign => exact .unary h
  | sign =>
    cases level with
    | lowest | sum | product => simp [Precedence.rank] at le
    | sign => exact h

theorem Phrase.Derives.to_sum {level : Precedence} {p : Phrase} (h : p.Derives level) :
    p.Derives .sum :=
  h.of_rank_le (by cases h <;> decide) (by decide)

/-- The rules join phrases by an operator if it binds no tighter than the level of the left one, and
the level of the right one is above it. -/
theorem Phrase.Derives.operation {level tighter : Precedence} {left right : Phrase}
    {operator : Token} (hl : left.Derives level) (hr : right.Derives tighter)
    (le : (Precedence.ofKind operator.kind).rank ≤ level.rank)
    (below : (Precedence.ofKind operator.kind).Below tighter)
    (binary : 0 < (Precedence.ofKind operator.kind).rank) :
    (Phrase.operation left operator right).Derives (.ofKind operator.kind) := by
  cases kind : operator.kind with
  | illegal | eof | number | opening | closing =>
    rw [kind] at binary
    exact absurd binary (Nat.lt_irrefl 0)
  | plus | minus =>
    rw [kind] at le below
    exact .add (hl.of_rank_le le (by decide)) (by simp [kind])
      (hr.of_rank_le (below.rank_le) (by decide))
  | times | divide =>
    rw [kind] at le below
    exact .multiply (hl.of_rank_le le (by decide)) (by simp [kind])
      (hr.of_rank_le (below.rank_le) (by decide))

namespace Climb

open Phrase

/-! ## Found and failed -/

/-- The reader failed: there is no tree, and something is wrong. -/
def Outcome.Failed (o : Outcome) : Prop :=
  o.expr? = none ∧ o.faults ≠ []

/-- The reader found the phrase: it is what the outcome tells of, nothing is wrong with it, and the
rules derive it at a level above the bound, which nothing that follows binds tighter than. -/
structure Outcome.Found (o : Outcome) (room : Nat) (bound : Precedence) (p : Phrase) : Prop where
  /-- The outcome is that of the phrase. -/
  eq : o = p.outcome o.rest
  /-- The phrase has no fault. -/
  clean : p.faults = []
  /-- The phrase takes no more levels than there was room for. -/
  enough : p.need ≤ room
  /-- The rules derive the phrase. -/
  derives : ∃ level, p.Derives level ∧ bound.Below level ∧ nextRank o.rest ≤ level.rank

theorem giveUp_failed (mark : Token) (fs : List Fault) (place : Span) :
    (giveUp mark fs place).Failed :=
  ⟨rfl, by simp [giveUp]⟩

theorem refuse_failed (t : Token) (rest : List Token) : (refuse t rest).Failed :=
  ⟨rfl, by simp [refuse]⟩

theorem Outcome.Failed.negate {o : Outcome} (h : o.Failed) (t : Token) : (o.negate t).Failed :=
  ⟨by simp [Outcome.negate, h.1], h.2⟩

theorem Outcome.Failed.close {o : Outcome} (h : o.Failed) (mark : Token) :
    (o.close mark).Failed := by
  unfold Outcome.close
  split
  · exact h
  · split
    · exact ⟨rfl, h.2⟩
    · exact ⟨rfl, by simp⟩

theorem Outcome.Failed.join_left {o : Outcome} (h : o.Failed) (t : Token) (right : Outcome) :
    (o.join t right).Failed :=
  ⟨by simp [Outcome.join, h.1], by simp [Outcome.join, h.2]⟩

theorem Outcome.Failed.join_right {o : Outcome} (h : o.Failed) (t : Token) (left : Outcome) :
    (left.join t o).Failed :=
  ⟨by simp [Outcome.join, h.1], by simp [Outcome.join, h.2]⟩

/-! ## Operands that are found -/

theorem found_literal {room : Nat} {bound : Precedence} {t : Token} {rest : List Token}
    (kind : t.kind = .number) (clean : (number t).faults = []) :
    (literal t rest).Found (room + 1) bound (number t) := by
  rw [literal_eq_outcome]
  exact ⟨rfl, clean, Nat.le_add_left 1 room, .sign, .number kind, Precedence.below_sign bound,
    Nat.le_succ_of_le (nextRank_le_two rest)⟩

theorem Outcome.Found.negate {o : Outcome} {room : Nat} {bound : Precedence} {sign : Token}
    {p : Phrase} (h : o.Found room .sign p) (kind : sign.kind = .minus) :
    (o.negate sign).Found (room + 1) bound (negation sign p) := by
  obtain ⟨level, derives, below, _⟩ := h.derives
  refine ⟨?_, h.clean, by simp only [need]; have := h.enough; omega, .sign,
    .negation kind (derives.of_rank_le below.rank_le (by decide)), Precedence.below_sign bound,
    Nat.le_succ_of_le (nextRank_le_two _)⟩
  rw [h.eq, negate_outcome]
  rfl

/-- A phrase that was found is closed by the parenthesis after it, or it is not closed. -/
theorem Outcome.Found.close {o : Outcome} {room : Nat} {mark opening : Token} {p : Phrase}
    (h : o.Found room .lowest p) (bound : Precedence) (eof : mark.kind = .eof)
    (kind : opening.kind = .opening) :
    (∃ closing, o.rest = closing :: (o.close mark).rest ∧
      (o.close mark).Found (room + 1) bound (group opening p closing)) ∨
    (o.close mark).Failed := by
  by_cases closed : (front mark o.rest).kind = .closing
  · obtain ⟨closing, ts, rest, final⟩ := exists_closing_of_front eof closed
    have closes : o.close mark = (group opening p closing).outcome ts := by
      rw [h.eq, rest]
      exact close_outcome mark opening p ts final
    obtain ⟨level, derives, _, _⟩ := h.derives
    rw [closes]
    exact .inl ⟨closing, rest, rfl, h.clean, by simp only [need]; have := h.enough; omega, .sign,
      .group kind derives.to_sum final, Precedence.below_sign bound,
      Nat.le_succ_of_le (nextRank_le_two ts)⟩
  · have going : o.abandoned = false := by
      rw [h.eq]
      rfl
    refine .inr ?_
    rw [Outcome.close, if_neg closed, going]
    exact ⟨rfl, by simp⟩

/-- An operator that follows a phrase found joins it with the phrase found after the operator. -/
theorem Outcome.Found.join {left right : Outcome} {room less : Nat} {bound : Precedence}
    {operator : Token} {ts : List Token} {p q : Phrase} (hl : left.Found room bound p)
    (hr : right.Found less (.ofKind operator.kind) q) (next : left.rest = operator :: ts)
    (lt : bound.rank < (Precedence.ofKind operator.kind).rank)
    (stops : nextRank right.rest ≤ (Precedence.ofKind operator.kind).rank)
    (budget : p.folds + 1 + (less + 1) = room) :
    (left.join operator right).Found room bound (operation p operator q) := by
  obtain ⟨level, derives, _, follows⟩ := hl.derives
  obtain ⟨tighter, operand, above, _⟩ := hr.derives
  rw [next, nextRank_cons] at follows
  have enoughLeft := hl.enough
  have enoughRight := hr.enough
  refine ⟨?_, ?_, by simp only [need]; omega, .ofKind operator.kind,
    derives.operation operand follows above (Nat.lt_of_le_of_lt (Nat.zero_le _) lt),
    Precedence.below_of_lt lt, stops⟩
  · rw [hl.eq, hr.eq, join_outcome]
    rfl
  · rw [Phrase.faults, hl.clean, hr.clean, List.append_nil]

/-! ## Reading settles -/

/-- The reader settled some tokens with a room and a bound: it found a phrase, which those of the
tokens make up that are not left, and stopped because nothing tighter follows, or it failed. -/
def Outcome.Settles (o : Outcome) (room : Nat) (bound : Precedence) (ts : List Token) : Prop :=
  (∃ p, o.Found room bound p ∧ ts = p.tokens ++ o.rest ∧ nextRank o.rest ≤ bound.rank) ∨ o.Failed

/-- Going on after an expression settles if it was found, with some room of which the rest is left,
and fails if it failed. -/
def Outcome.GoesOn (room : Nat) (bound : Precedence) (left o : Outcome) : Prop :=
  (∀ total p, left.Found total bound p → p.folds + 1 + room = total →
    o.Settles total bound (p.tokens ++ left.rest)) ∧
  (left.Failed → o.Failed)

/-- What is gone on with after an operand settles it. -/
theorem Outcome.GoesOn.settles {room : Nat} {bound : Precedence} {left o : Outcome}
    {ts : List Token} (h : GoesOn room bound left o)
    (operand : (∃ p, left.Found (room + 1) bound p ∧ p.folds = 0 ∧ ts = p.tokens ++ left.rest) ∨
      left.Failed) : o.Settles (room + 1) bound ts := by
  rcases operand with ⟨p, found, unfolded, used⟩ | failed
  · rw [used]
    exact h.1 (room + 1) p found (by omega)
  · exact .inr (h.2 failed)

/-- Reading an expression settles, step by step. -/
theorem settles_invariant {mark : Token} (eof : mark.kind = .eof) :
    Invariant mark (fun room bound ts o => o.Settles room bound ts) Outcome.GoesOn where
  lacking _ ts := .inr (giveUp_failed mark [] (front mark ts).span)
  missing _ _ := .inr (refuse_failed mark [])
  refused _ _ t ts _ := .inr (refuse_failed t ts)
  number room bound t ts o kind gone := by
    refine gone.settles ?_
    by_cases clean : (number t).faults = []
    · refine .inl ⟨number t, found_literal kind clean, rfl, ?_⟩
      rw [literal_rest, Phrase.tokens, List.singleton_append]
    · rw [literal_eq_outcome]
      exact .inr ⟨(expr?_eq_none_iff _).2 clean, clean⟩
  minus room bound t ts o kind inner gone := by
    refine gone.settles ?_
    rcases inner with ⟨p, found, used, _⟩ | failed
    · exact .inl ⟨negation t p, found.negate kind, rfl, congrArg (t :: ·) used⟩
    · exact .inr (failed.negate t)
  opening room bound t ts o kind inner gone := by
    refine gone.settles ?_
    rcases inner with ⟨p, found, used, _⟩ | failed
    · rcases found.close bound eof kind with ⟨closing, next, closed⟩ | failed
      · refine .inl ⟨group t p closing, closed, rfl, ?_⟩
        rw [Phrase.tokens, List.cons_append, List.append_assoc, List.singleton_append, ← next]
        exact congrArg (t :: ·) used
      · exact .inr failed
    · exact .inr (failed.close mark)
  stop room bound left stops :=
    ⟨fun _ p found _ => .inl ⟨p, found, rfl, stops⟩, fun failed => failed⟩
  full bound left t ts next lt :=
    ⟨fun _ _ _ _ => .inr (giveUp_failed mark _ _), fun _ => giveUp_failed mark _ _⟩
  step room bound left t ts o next lt right gone := by
    refine ⟨fun total p found budget => ?_, fun failed => gone.2 (failed.join_left t _)⟩
    rcases right with ⟨q, operand, used, after⟩ | failed
    · have joined := found.join operand next lt after budget
      have tokens : p.tokens ++ left.rest = (operation p t q).tokens ++
          (left.join t (expression mark room (.ofKind t.kind) ts)).rest := by
        rw [next, Phrase.tokens, List.append_assoc, List.cons_append]
        exact congrArg (p.tokens ++ t :: ·) used
      rw [tokens]
      exact gone.1 total _ joined (by simp only [folds]; omega)
    · exact .inr (gone.2 (failed.join_right t left))

/-- Reading an expression settles. -/
theorem expression_settles {mark : Token} (eof : mark.kind = .eof) (room : Nat)
    (bound : Precedence) (ts : List Token) :
    (expression mark room bound ts).Settles room bound ts :=
  (settles_invariant eof).expression room bound ts

end Climb

end Abacus
