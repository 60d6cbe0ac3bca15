import Abacus.Proofs.Grammar
import Abacus.Proofs.Reading

/-!
# Derivable phrases are read

What the reader of expressions does where a phrase comes next that the rules
derive.  With enough room it reads the phrase and goes on after it
(`Derives.isRead`).  Without, it gives up, and before that it notes no fault but
some of those that the phrase has (`Derives.isCutShort`).

Both are inductions on the derivation, for any bound below the level of the
phrase and for any tokens after it that do not bind tighter than that level.
The content is in the operations.  The reader is not called for them.  It reads
the left operand and *goes on* with it in `fold`, so the statement has to say
with what room it goes on: the room it was called with, less a level for the
first operand and one for each operator folded.
-/

namespace Abacus

namespace Precedence

/-- Whether an expression that is read with a bound may have operators of a level outside its
operands.  A unary has none, so every bound is below it. -/
def Below (bound level : Precedence) : Prop :=
  bound.rank < level.rank ∨ level = sign

theorem below_sign (bound : Precedence) : bound.Below sign :=
  .inr rfl

theorem below_of_lt {bound level : Precedence} (h : bound.rank < level.rank) : bound.Below level :=
  .inl h

/-- A bound that is below a level is below every tighter one. -/
theorem Below.mono {bound level tighter : Precedence} (h : bound.Below level)
    (le : level.rank ≤ tighter.rank) : bound.Below tighter := by
  rcases h with lt | rfl
  · exact .inl (Nat.lt_of_lt_of_le lt le)
  · cases tighter with
    | sign => exact .inr rfl
    | lowest | sum | product => simp [rank] at le

/-- The next level is the least that a bound is below. -/
theorem Below.rank_le {bound level : Precedence} (h : bound.Below level) :
    min (bound.rank + 1) sign.rank ≤ level.rank := by
  rcases h with lt | rfl
  · exact Nat.le_trans (Nat.min_le_left ..) lt
  · exact Nat.min_le_right ..

theorem ofKind_of_times_or_divide {kind : Token.Kind} (h : kind = .times ∨ kind = .divide) :
    ofKind kind = product := by
  rcases h with rfl | rfl <;> rfl

theorem ofKind_of_plus_or_minus {kind : Token.Kind} (h : kind = .plus ∨ kind = .minus) :
    ofKind kind = sum := by
  rcases h with rfl | rfl <;> rfl

end Precedence

namespace Phrase

open Climb

/-! ## Enough room -/

/-- What reading the phrase leaves before some tokens. -/
def outcome (p : Phrase) (rest : List Token) : Outcome :=
  ⟨p.expr?, p.faults, p.last.span, rest, false⟩

theorem literal_eq_outcome (t : Token) (rest : List Token) :
    literal t rest = (number t).outcome rest := by
  cases h : Literal.value? t.text with
  | none => simp [literal, outcome, expr?, faults, last, h]
  | some value => simp [literal, outcome, expr?, faults, last, h]

theorem negate_outcome (sign : Token) (operand : Phrase) (rest : List Token) :
    (operand.outcome rest).negate sign = (negation sign operand).outcome rest := rfl

theorem close_outcome (mark opening : Token) {closing : Token} (inner : Phrase)
    (rest : List Token) (kind : closing.kind = .closing) :
    (inner.outcome (closing :: rest)).close mark = (group opening inner closing).outcome rest := by
  simp [Outcome.close, outcome, front, kind, expr?, faults, last]

theorem join_outcome (operator : Token) (left right : Phrase) (rest rest' : List Token) :
    (left.outcome rest).join operator (right.outcome rest') =
      (operation left operator right).outcome rest' := rfl

/-- The reader reads the phrase, taken to be of a level, wherever there is room for it, and goes on
after it with the room that is left. -/
def IsRead (mark : Token) (level : Precedence) (p : Phrase) : Prop :=
  ∀ ⦃room : Nat⦄ ⦃bound : Precedence⦄ ⦃rest : List Token⦄, bound.Below level →
    nextRank rest ≤ level.rank → p.need ≤ room →
    expression mark room bound (p.tokens ++ rest) =
      fold mark (room - 1 - p.folds) bound (p.outcome rest)

/-- The reader stops after the phrase where nothing tighter than its bound follows. -/
theorem IsRead.expression_eq_outcome {mark : Token} {level bound : Precedence} {p : Phrase}
    {room : Nat} {rest : List Token} (h : IsRead mark level p) (below : bound.Below level)
    (stops : nextRank rest ≤ bound.rank) (enough : p.need ≤ room) :
    expression mark room bound (p.tokens ++ rest) = p.outcome rest := by
  have follows : nextRank rest ≤ level.rank := by
    rcases below with lt | rfl
    · exact Nat.le_trans stops (Nat.le_of_lt lt)
    · exact Nat.le_succ_of_le (nextRank_le_two rest)
  rw [h below follows enough]
  exact fold_of_nextRank_le stops

theorem isRead_number {mark t : Token} (kind : t.kind = .number) :
    IsRead mark .sign (number t) := by
  intro room bound rest _ _ enough
  obtain ⟨room, rfl⟩ := Nat.exists_eq_add_of_le' enough
  exact (expression_number rest kind).trans (by rw [literal_eq_outcome]; rfl)

theorem IsRead.negation {mark sign : Token} {operand : Phrase} (h : IsRead mark .sign operand)
    (kind : sign.kind = .minus) : IsRead mark .sign (negation sign operand) := by
  intro room bound rest _ _ enough
  obtain ⟨room, rfl⟩ := Nat.exists_eq_add_of_le' (Nat.le_of_add_right_le enough)
  have inner : expression mark room .sign (operand.tokens ++ rest) = operand.outcome rest :=
    h.expression_eq_outcome (Precedence.below_sign _) (Nat.le_succ_of_le (nextRank_le_two rest))
      (by simp only [need] at enough; omega)
  rw [tokens, List.cons_append, expression_minus _ kind, inner, negate_outcome]
  rfl

theorem IsRead.group {mark opening closing : Token} {inner : Phrase} (h : IsRead mark .sum inner)
    (first : opening.kind = .opening) (final : closing.kind = .closing) :
    IsRead mark .sign (group opening inner closing) := by
  intro room bound rest _ _ enough
  obtain ⟨room, rfl⟩ := Nat.exists_eq_add_of_le' (Nat.le_of_add_right_le enough)
  have inside : expression mark room .lowest (inner.tokens ++ closing :: rest) =
      inner.outcome (closing :: rest) :=
    h.expression_eq_outcome (Precedence.below_of_lt (by decide)) (nextRank_closing final rest)
      (by simp only [need] at enough; omega)
  rw [tokens, List.cons_append, List.append_assoc, List.singleton_append,
    expression_opening _ first, inside, close_outcome mark opening inner rest final]
  rfl

/-- The reader goes on after a left operand with the operator and the right operand, which it reads
with the level of the operator as the bound. -/
theorem IsRead.operation {mark operator : Token} {level tighter : Precedence}
    {left right : Phrase} (hl : IsRead mark level left) (hr : IsRead mark tighter right)
    (kind : Precedence.ofKind operator.kind = level) (operand : level.Below tighter)
    (binary : level ≠ .sign) : IsRead mark level (operation left operator right) := by
  intro room bound rest below follows enough
  have lt : bound.rank < (Precedence.ofKind operator.kind).rank := by
    rw [kind]
    exact below.resolve_right binary
  have next := nextRank_le_of_ofKind_eq (right.tokens ++ rest) kind
  have first := hl below next (Nat.le_trans (need_left_le left operator right) enough)
  simp only [need] at enough
  obtain ⟨less, h⟩ := Nat.exists_eq_add_of_le' (show 1 ≤ room - 1 - left.folds by omega)
  have second : expression mark less level (right.tokens ++ rest) = right.outcome rest :=
    hr.expression_eq_outcome operand follows (by omega)
  have remains : room - 1 - (Phrase.operation left operator right).folds = less := by
    simp only [folds]
    omega
  rw [tokens, List.append_assoc, List.cons_append, first, h, fold_succ rfl lt, kind, second,
    join_outcome, remains]

/-- The reader reads every phrase that the rules derive. -/
theorem Derives.isRead {level : Precedence} {p : Phrase} (h : p.Derives level) (mark : Token) :
    IsRead mark level p := by
  induction h with
  | number kind => exact isRead_number kind
  | negation kind _ ih => exact ih.negation kind
  | group first _ final ih => exact ih.group first final
  | unary _ ih =>
    intro room bound rest _ follows enough
    exact ih (Precedence.below_sign _) (Nat.le_succ_of_le follows) enough
  | multiply _ kind _ ihl ihr =>
    exact ihl.operation ihr (Precedence.ofKind_of_times_or_divide kind) (Precedence.below_sign _)
      (by decide)
  | product _ ih =>
    intro room bound rest below follows enough
    exact ih (below.mono (by decide)) (Nat.le_succ_of_le follows) enough
  | add _ kind _ ihl ihr =>
    exact ihl.operation ihr (Precedence.ofKind_of_plus_or_minus kind)
      (Precedence.below_of_lt (by decide)) (by decide)

/-! ## Want of room -/

theorem negate_giveUp (sign mark : Token) (fs : List Fault) (place : Span) :
    (giveUp mark fs place).negate sign = giveUp mark fs place := rfl

/-- A parenthesis is not told to be unclosed when the line was given up inside of it. -/
theorem close_giveUp {mark : Token} (eof : mark.kind = .eof) (fs : List Fault) (place : Span) :
    (giveUp mark fs place).close mark = giveUp mark fs place := by
  simp [Outcome.close, giveUp, front, eof]

theorem join_giveUp (left : Phrase) (operator mark : Token) (rest : List Token)
    (fs : List Fault) (place : Span) :
    (left.outcome rest).join operator (giveUp mark fs place) =
      giveUp mark (left.faults ++ fs) place := by
  cases h : left.expr? with
  | none => simp [Outcome.join, giveUp, outcome, h]
  | some l => simp [Outcome.join, giveUp, outcome, h]

theorem fold_giveUp (mark : Token) (room : Nat) (bound : Precedence) (fs : List Fault)
    (place : Span) : fold mark room bound (giveUp mark fs place) = giveUp mark fs place :=
  fold_of_nextRank_le (Nat.zero_le _)

/-- The reader gives up at the phrase, taken to be of a level, wherever there is no room for it.
What it notes before that is an initial part of the faults of the phrase. -/
def IsCutShort (mark : Token) (level : Precedence) (p : Phrase) : Prop :=
  ∀ ⦃room : Nat⦄ ⦃bound : Precedence⦄ ⦃rest : List Token⦄, bound.Below level →
    nextRank rest ≤ level.rank → room < p.need →
    ∃ fs place, fs <+: p.faults ∧
      expression mark room bound (p.tokens ++ rest) = giveUp mark fs place

theorem isCutShort_number (mark t : Token) : IsCutShort mark .sign (number t) := by
  intro room bound rest _ _ lacks
  cases Nat.lt_one_iff.1 lacks
  exact ⟨[], _, List.nil_prefix, by rw [expression]⟩

theorem IsCutShort.negation {mark sign : Token} {operand : Phrase}
    (h : IsCutShort mark .sign operand) (kind : sign.kind = .minus) :
    IsCutShort mark .sign (negation sign operand) := by
  intro room bound rest _ follows lacks
  cases room with
  | zero => exact ⟨[], _, List.nil_prefix, by rw [expression]⟩
  | succ room =>
    simp only [need] at lacks
    obtain ⟨fs, place, noted, inner⟩ := @h room .sign _ (Precedence.below_sign _) follows (by omega)
    refine ⟨fs, place, noted, ?_⟩
    rw [tokens, List.cons_append, expression_minus _ kind, inner, negate_giveUp, fold_giveUp]

theorem IsCutShort.group {mark opening closing : Token} {inner : Phrase}
    (h : IsCutShort mark .sum inner) (eof : mark.kind = .eof) (first : opening.kind = .opening)
    (final : closing.kind = .closing) : IsCutShort mark .sign (group opening inner closing) := by
  intro room bound rest _ _ lacks
  cases room with
  | zero => exact ⟨[], _, List.nil_prefix, by rw [expression]⟩
  | succ room =>
    simp only [need] at lacks
    obtain ⟨fs, place, noted, inside⟩ := @h room .lowest (closing :: rest)
      (Precedence.below_of_lt (by decide)) (Nat.le_succ_of_le (nextRank_closing final rest))
      (by omega)
    refine ⟨fs, place, noted, ?_⟩
    rw [tokens, List.cons_append, List.append_assoc, List.singleton_append,
      expression_opening _ first, inside, close_giveUp eof, fold_giveUp]

/-- Room is wanting for the left operand, for the operator, or for the right operand. -/
theorem IsCutShort.operation {mark operator : Token} {level tighter : Precedence}
    {left right : Phrase} (hl : IsCutShort mark level left) (hr : IsCutShort mark tighter right)
    (read : IsRead mark level left) (kind : Precedence.ofKind operator.kind = level)
    (operand : level.Below tighter) (binary : level ≠ .sign) (le : level.rank ≤ tighter.rank) :
    IsCutShort mark level (operation left operator right) := by
  intro room bound rest below follows lacks
  have lt : bound.rank < (Precedence.ofKind operator.kind).rank := by
    rw [kind]
    exact below.resolve_right binary
  have next := nextRank_le_of_ofKind_eq (right.tokens ++ rest) kind
  rw [tokens, List.append_assoc, List.cons_append]
  by_cases enough : left.need ≤ room
  · rw [read below next enough]
    simp only [need] at lacks
    cases h : room - 1 - left.folds with
    | zero =>
      refine ⟨left.faults, left.last.span, List.prefix_append _ _, ?_⟩
      rw [fold_zero rfl lt, outcome]
    | succ less =>
      obtain ⟨fs, place, noted, second⟩ :=
        @hr less level _ operand (Nat.le_trans follows le) (by omega)
      refine ⟨left.faults ++ fs, place, (List.prefix_append_right_inj _).2 noted, ?_⟩
      rw [fold_succ rfl lt, kind, second, join_giveUp, fold_giveUp]
  · obtain ⟨fs, place, noted, first⟩ := hl below next (Nat.lt_of_not_le enough)
    exact ⟨fs, place, noted.trans (List.prefix_append _ _), first⟩

/-- The reader gives up at every phrase that the rules derive. -/
theorem Derives.isCutShort {level : Precedence} {p : Phrase} (h : p.Derives level) {mark : Token}
    (eof : mark.kind = .eof) : IsCutShort mark level p := by
  induction h with
  | number => exact isCutShort_number mark _
  | negation kind _ ih => exact ih.negation kind
  | group first _ final ih => exact ih.group eof first final
  | unary _ ih =>
    intro room bound rest _ follows lacks
    exact ih (Precedence.below_sign _) (Nat.le_succ_of_le follows) lacks
  | multiply derives kind _ ihl ihr =>
    exact ihl.operation ihr (derives.isRead mark) (Precedence.ofKind_of_times_or_divide kind)
      (Precedence.below_sign _) (by decide) (by decide)
  | product _ ih =>
    intro room bound rest below follows lacks
    exact ih (below.mono (by decide)) (Nat.le_succ_of_le follows) lacks
  | add derives kind _ ihl ihr =>
    exact ihl.operation ihr (derives.isRead mark) (Precedence.ofKind_of_plus_or_minus kind)
      (Precedence.below_of_lt (by decide)) (by decide) (by decide)

end Phrase

end Abacus
