import Abacus.Proofs.Accounting
import Abacus.Proofs.Height
import Abacus.Proofs.TreeOrFault

/-!
# Giving up is final

Where there is no room for another level, the reader of expressions notes that and
skips what is left of the line.  It may do so deep inside of groups, signs and
operators, and each of them goes on after that.  None of them tells of anything
more, folds another operator or builds a tree (`finality_invariant`).

Three things see to that.

* Nothing is left, so that no operator follows and no operand is read.
* The tree is gone, and what an operator makes of an operand without a tree has
  none either.
* A group is not told to be unclosed where the line was given up in it.

So want of room is the last fault, and the only one of its kind.

*Lines.*  Reading all expressions of a line is asking for them one by one
(`line_of_unread_ne_nil`, `line_of_unread_eq_nil`).  Giving up happens in one of
these, and what the line gives is what it gave before this one was asked for
(`GivesUp`).
-/

namespace Abacus

namespace Climb

/-! ## Outcomes that are final -/

/-- The line was given up: there is no tree and nothing is left, and want of room is told once,
after everything else. -/
structure Outcome.GivenUp (o : Outcome) : Prop where
  /-- It is noted that the line was given up. -/
  abandoned : o.abandoned = true
  /-- There is no tree. -/
  treeless : o.expr? = none
  /-- Nothing is left. -/
  exhausted : o.rest = []
  /-- Want of room is the last fault and no other. -/
  told : ∃ fs place, o.faults = fs ++ [⟨.tooDeep, place⟩] ∧ ¬ GaveUp fs

/-- The line was not given up. -/
structure Outcome.Kept (o : Outcome) : Prop where
  /-- It is not noted that the line was given up. -/
  going : o.abandoned = false
  /-- Want of room is not told. -/
  roomy : ¬ GaveUp o.faults

/-- The line was given up for good, or not at all. -/
def Outcome.IsFinal (o : Outcome) : Prop :=
  o.GivenUp ∨ o.Kept

theorem not_gaveUp_append {fs gs : List Fault} (hf : ¬ GaveUp fs) (hg : ¬ GaveUp gs) :
    ¬ GaveUp (fs ++ gs) := by
  rintro ⟨f, mem, cause⟩
  rcases List.mem_append.1 mem with first | second
  · exact hf ⟨f, first, cause⟩
  · exact hg ⟨f, second, cause⟩

theorem not_gaveUp_of_every {fs : List Fault} (h : Every (· ≠ .tooDeep) fs) : ¬ GaveUp fs := by
  rintro ⟨f, mem, cause⟩
  exact h f mem cause

theorem giveUp_givenUp (mark : Token) {fs : List Fault} (roomy : ¬ GaveUp fs) (place : Span) :
    (giveUp mark fs place).GivenUp :=
  ⟨rfl, rfl, rfl, fs, place, rfl, roomy⟩

theorem refuse_kept (t : Token) (rest : List Token) : (refuse t rest).Kept :=
  ⟨rfl, not_gaveUp_of_every (every_refuse (by simp) (by simp) t rest)⟩

theorem literal_kept (t : Token) (rest : List Token) : (literal t rest).Kept := by
  refine ⟨?_, not_gaveUp_of_every (every_literal (by simp) t rest)⟩
  unfold literal
  split <;> rfl

theorem Outcome.IsFinal.negate {o : Outcome} (h : o.IsFinal) (t : Token) :
    (o.negate t).IsFinal := by
  rcases h with givenUp | kept
  · refine .inl { givenUp with treeless := ?_ }
    rw [Outcome.negate, givenUp.treeless]
    rfl
  · exact .inr ⟨kept.going, kept.roomy⟩

/-- A group in which the line was given up is not told to be unclosed. -/
theorem Outcome.IsFinal.close {o : Outcome} (h : o.IsFinal) {mark : Token}
    (eof : mark.kind = .eof) : (o.close mark).IsFinal := by
  rcases h with givenUp | kept
  · have unclosed : (front mark o.rest).kind ≠ .closing := by
      rw [givenUp.exhausted, front, List.head?_nil, Option.getD_none, eof]
      decide
    rw [close_of_abandoned unclosed givenUp.abandoned]
    exact .inl { givenUp with treeless := rfl }
  · by_cases closed : (front mark o.rest).kind = .closing
    · rw [close_of_closing closed]
      exact .inr ⟨kept.going, kept.roomy⟩
    · rw [close_of_ne_closing closed kept.going]
      refine .inr ⟨kept.going, not_gaveUp_append kept.roomy ?_⟩
      exact not_gaveUp_of_every (.singleton (by simp))

/-- An operator after which the line is given up has no tree, whatever its left operand is.  The
line was not given up in that one, because the operator was left. -/
theorem Outcome.IsFinal.join {left right : Outcome} {t : Token} {ts : List Token}
    (hl : left.IsFinal) (next : left.rest = t :: ts) (hr : right.IsFinal) :
    (left.join t right).IsFinal := by
  have kept : left.Kept := by
    refine hl.resolve_left fun givenUp => ?_
    rw [givenUp.exhausted] at next
    cases next
  rcases hr with givenUp | keptR
  · obtain ⟨fs, place, told, roomy⟩ := givenUp.told
    refine .inl ⟨givenUp.abandoned, ?_, givenUp.exhausted, left.faults ++ fs, place, ?_,
      not_gaveUp_append kept.roomy roomy⟩
    · simp [Outcome.join, givenUp.treeless]
    · rw [Outcome.join, told, List.append_assoc]
  · exact .inr ⟨keptR.going, not_gaveUp_append kept.roomy keptR.roomy⟩

/-- What reading an expression gives is final, step by step. -/
theorem finality_invariant {mark : Token} (eof : mark.kind = .eof) :
    Invariant mark (fun _ _ _ o => o.IsFinal) (fun _ _ left o => left.IsFinal → o.IsFinal) where
  lacking _ ts := .inl (giveUp_givenUp mark (not_gaveUp_of_every .nil) (front mark ts).span)
  missing _ _ := .inr (refuse_kept mark [])
  refused _ _ t ts _ := .inr (refuse_kept t ts)
  number _ _ t ts _ _ gone := gone (.inr (literal_kept t ts))
  minus _ _ t _ _ _ inner gone := gone (inner.negate t)
  opening _ _ _ _ _ _ inner gone := gone (inner.close eof)
  stop _ _ _ _ := fun final => final
  full _ left t ts next _ := by
    intro final
    rcases final with givenUp | kept
    · rw [givenUp.exhausted] at next
      cases next
    · exact .inl (giveUp_givenUp mark kept.roomy left.last)
  step _ _ _ _ _ _ next _ right gone := fun final => gone (final.join next right)

theorem expression_isFinal {mark : Token} (eof : mark.kind = .eof) (room : Nat)
    (bound : Precedence) (ts : List Token) : (expression mark room bound ts).IsFinal :=
  (finality_invariant eof).expression room bound ts

end Climb

/-! ## Asking for one expression after another -/

namespace Parser

/-- The token that a parser stands at, which is the end mark if all tokens were used. -/
def current (p : Parser) : Token :=
  Climb.front p.mark p.unread

/-- The token after that. -/
def peek (p : Parser) : Token :=
  Climb.front p.mark p.unread.tail

/-- Asks a parser for expressions, as often as a number says.  Gives their trees and the parser
after that. -/
def expressions : Nat → Parser → List Expr × Parser
  | 0, p => ([], p)
  | n + 1, p =>
    ((p.expression .lowest).1.toList ++ (expressions n (p.expression .lowest).2).1,
      (expressions n (p.expression .lowest).2).2)

variable {p : Parser}

theorem line_of_going (going : p.abandoned = false) :
    p.line = ((Climb.line p.mark p.room p.unread).exprs,
      { p with
        unread := []
        faults := p.faults ++ (Climb.line p.mark p.room p.unread).faults
        abandoned := (Climb.line p.mark p.room p.unread).abandoned }) := by
  rw [line, going, if_neg Bool.false_ne_true]

/-- Where no token is left there is no expression. -/
theorem line_of_unread_eq_nil (exhausted : p.unread = []) : p.line = ([], p) := by
  obtain ⟨unread, mark, depth, faults, abandoned⟩ := p
  cases exhausted
  cases abandoned with
  | true => rfl
  | false => simp [line_of_going, Climb.line]

/-- Where a token is left, reading all expressions is asking for one and then reading all.  Nothing
is left of a line that was given up, and reading nothing tells nothing. -/
theorem line_of_unread_ne_nil (eof : p.mark.kind = .eof) (left : p.unread ≠ []) :
    p.line = ((p.expression .lowest).1.toList ++ (p.expression .lowest).2.line.1,
      (p.expression .lowest).2.line.2) := by
  cases going : p.abandoned with
  | true => simp [line, expression, going]
  | false =>
    rw [line_of_going going, expression_of_going going, Climb.line_of_ne_nil _ _ left]
    rcases Climb.expression_isFinal eof p.room .lowest p.unread with givenUp | kept
    · simp [line, givenUp.abandoned, givenUp.exhausted, Climb.line, Climb.Reading.cons]
    · rw [line_of_going kept.going]
      have going' := kept.going
      simp only [room] at going'
      simp [Climb.Reading.cons, going', room]

/-- Asked for an expression, the parser `before` gives up, and `after` is what becomes of it. -/
structure GivesUp (before after : Parser) : Prop where
  /-- It did not give up before. -/
  going : before.abandoned = false
  /-- It stands at a token. -/
  left : before.unread ≠ []
  /-- It gives no tree. -/
  treeless : before.expression .lowest = (none, after)
  /-- It tells of want of room after everything else, and not more than once. -/
  told : ∃ fs place, after.faults = before.faults ++ fs ++ [⟨.tooDeep, place⟩] ∧
    ¬ Climb.GaveUp (before.faults ++ fs)
  /-- It is noted that it gave up. -/
  abandoned : after.abandoned = true
  /-- No token is left. -/
  exhausted : after.unread = []

theorem givesUp_of_givenUp (going : p.abandoned = false) (roomy : ¬ Climb.GaveUp p.faults)
    (left : p.unread ≠ [])
    (h : (Climb.expression p.mark p.room .lowest p.unread).GivenUp) :
    p.GivesUp (p.expression .lowest).2 := by
  obtain ⟨fs, place, told, few⟩ := h.told
  rw [expression_of_going going]
  exact {
    going := going
    left := left
    treeless := by rw [expression_of_going going, h.treeless]
    told := ⟨fs, place, by simp [told], Climb.not_gaveUp_append roomy few⟩
    abandoned := h.abandoned
    exhausted := h.exhausted }

/-- Reading all expressions never gives up, or it gives up in the one after the first `n`.  Then it
ends there, with the trees of the first `n`. -/
theorem line_givesUp_or_roomy (eof : p.mark.kind = .eof) (going : p.abandoned = false)
    (roomy : ¬ Climb.GaveUp p.faults) :
    (∃ n after, (p.expressions n).2.GivesUp after ∧ p.line = ((p.expressions n).1, after)) ∨
      ¬ Climb.GaveUp p.line.2.faults := by
  induction p using byExpressions with
  | done p exhausted =>
    rw [line_of_unread_eq_nil exhausted]
    exact .inr roomy
  | step p left ih =>
    have first := expression_of_going going .lowest
    rw [line_of_unread_ne_nil eof left]
    rcases Climb.expression_isFinal eof p.room .lowest p.unread with givenUp | kept
    · have givesUp := givesUp_of_givenUp going roomy left givenUp
      refine .inl ⟨0, (p.expression .lowest).2, givesUp, ?_⟩
      rw [givesUp.treeless, line_of_unread_eq_nil givesUp.exhausted]
      rfl
    · have going' : (p.expression .lowest).2.abandoned = false := by
        rw [first]
        exact kept.going
      have roomy' : ¬ Climb.GaveUp (p.expression .lowest).2.faults := by
        rw [first]
        exact Climb.not_gaveUp_append roomy kept.roomy
      have eof' : (p.expression .lowest).2.mark.kind = .eof := by
        rw [(expression_frame p .lowest).mark]
        exact eof
      rcases ih eof' going' roomy' with ⟨n, after, givesUp, line⟩ | roomy
      · refine .inl ⟨n + 1, after, givesUp, ?_⟩
        rw [line]
        rfl
      · exact .inr roomy

/-! ## The parser of a text -/

theorem line_mark (p : Parser) : p.line.2.mark = p.mark := by
  rw [line]
  split <;> rfl

/-- Nothing else is told in the words in which want of room is told. -/
theorem message_ne_of_not_gaveUp {fs : List Fault} (roomy : ¬ Climb.GaveUp fs) :
    ∀ d ∈ fs.map Fault.diagnostic, d.message ≠ "expression nested too deeply" := by
  intro d mem message
  obtain ⟨f, inside, rfl⟩ := List.mem_map.1 mem
  exact roomy ⟨f, inside, message_eq_tooDeep_iff.1 message⟩

theorem countP_tooDeep_eq_zero {fs : List Fault} (roomy : ¬ Climb.GaveUp fs) :
    (fs.map Fault.diagnostic).countP (·.message = "expression nested too deeply") = 0 := by
  rw [List.countP_eq_zero]
  intro d mem
  simpa using message_ne_of_not_gaveUp roomy d mem

/-- A parser that gave up stands at the end mark. -/
theorem GivesUp.at_end {before after : Parser} (h : before.GivesUp after)
    (eof : after.mark.kind = .eof) : after.current.kind = .eof ∧ after.peek.kind = .eof := by
  rw [current, peek, h.exhausted]
  exact ⟨eof, eof⟩

/-- Want of room is told by the parser of a text once at most, and after everything else.  If it is
told, it is told in the expression after the first `n`, for some `n`.  That one has no tree, and the
trees are those of the first `n`, as they were before it was asked for.  The parser is left at the
end mark, with nothing after it. -/
theorem tooDeep_is_final (source : String) :
    (told source).countP (·.message = "expression nested too deeply") ≤ 1 ∧
    ∀ d ∈ told source, d.message = "expression nested too deeply" →
      (told source).getLast? = some d ∧
      ∃ n after, ((ofString source).expressions n).2.GivesUp after ∧
        (ofString source).line = (((ofString source).expressions n).1, after) ∧
        after.current.kind = .eof ∧ after.peek.kind = .eof := by
  have eof : (ofString source).mark.kind = .eof := rfl
  have fresh : ¬ Climb.GaveUp (ofString source).faults := Climb.not_gaveUp_of_every .nil
  rcases line_givesUp_or_roomy eof rfl fresh with ⟨n, after, givesUp, line⟩ | roomy
  · obtain ⟨fs, place, faults, roomy⟩ := givesUp.told
    have tells : told source = (((ofString source).expressions n).2.faults ++ fs).map
        Fault.diagnostic ++ [(Fault.mk .tooDeep place).diagnostic] := by
      rw [told, line, faults, List.map_append, List.map_singleton]
    have mark : after.mark = (ofString source).mark := by
      rw [← line_mark (ofString source), line]
    rw [tells]
    constructor
    · rw [List.countP_append, countP_tooDeep_eq_zero roomy, Nat.zero_add]
      exact List.countP_le_length
    · intro d mem message
      rcases List.mem_append.1 mem with earlier | last
      · exact absurd message (message_ne_of_not_gaveUp roomy d earlier)
      · cases List.mem_singleton.1 last
        exact ⟨List.getLast?_concat, n, after, givesUp, line, givesUp.at_end (mark ▸ eof)⟩
  · constructor
    · rw [told, countP_tooDeep_eq_zero roomy]
      exact Nat.zero_le 1
    · intro d mem message
      exact absurd message (message_ne_of_not_gaveUp roomy d mem)

/-- A number with signs before it spells a unary that takes a level for each of them. -/
theorem exists_spells_signs : ∀ n : Nat, ∃ p e,
    Spells (List.replicate n '-' ++ ['1']) p e ∧ p.Derives .sign ∧ p.need = 1 + n
  | 0 => ⟨_, _, spells_one, .number rfl, rfl⟩
  | n + 1 => by
    obtain ⟨p, e, spells, unary, need⟩ := exists_spells_signs n
    refine ⟨_, _, spells.negation unary, .negation rfl unary, ?_⟩
    rw [Phrase.need, need, Nat.add_comm n]

/-- A number with as many signs as there are levels. -/
theorem tooDeep_is_final_after_signs :
    let source := String.ofList (List.replicate 256 '-' ++ ['1'])
    ∃ d ∈ told source, d.message = "expression nested too deeply" ∧
      (told source).getLast? = some d ∧
      ∃ n after, ((ofString source).expressions n).2.GivesUp after ∧
        (ofString source).line = (((ofString source).expressions n).1, after) ∧
        after.current.kind = .eof ∧ after.peek.kind = .eof := by
  intro source
  obtain ⟨p, e, spells, -, need⟩ := exists_spells_signs 256
  rw [← @String.toList_ofList (List.replicate 256 '-' ++ ['1'])] at spells
  obtain ⟨-, place, faults⟩ := spells.line_tooDeep (by rw [need]; decide)
  have mem : (Fault.mk .tooDeep place).diagnostic ∈ told source := by
    rw [told, faults]
    exact List.mem_singleton_self _
  exact ⟨_, mem, rfl, (tooDeep_is_final source).2 _ mem rfl⟩

end Parser

end Abacus
