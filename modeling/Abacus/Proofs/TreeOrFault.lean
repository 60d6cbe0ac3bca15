import Abacus.Proofs.Acceptance
import Abacus.Proofs.Frames

/-!
# A tree or a fault

Asked for an expression, a parser of a text gives a tree exactly if it tells of
nothing wrong (`Parser.expression_isSome_iff`).  So no expression is dropped in
silence.  And the tree is that of a phrase which the tokens used make up, with
literals for all its numbers, so that nothing went into it that was told to be
wrong.

Parsing a text goes through many states, at all depths and with all kinds of
faults before.  What they have in common is that the parser *stands in* the text.
It does so at first (`ofString_standsIn`), the mark never changes, and tokens are
only used up, so that those left are the last ones of the text.
-/

namespace Abacus

namespace Parser

/-- A parser stands in a text: it has the end mark of the text, and what it did not use yet is a
final part of the tokens.  Depth and faults may be any. -/
structure StandsIn (p : Parser) (source : String) : Prop where
  /-- The mark is that of the text. -/
  mark : p.mark = (Cursor.ofString source).mark
  /-- The tokens that are left are the last ones of the text. -/
  unread : p.unread <:+ (Cursor.ofString source).tokens

variable {source : String} {p : Parser}

theorem ofString_standsIn (source : String) : (ofString source).StandsIn source :=
  ⟨rfl, List.suffix_rfl⟩

theorem StandsIn.eof (h : p.StandsIn source) : p.mark.kind = .eof := by
  rw [h.mark]
  rfl

/-- Reading an expression keeps a parser in its text. -/
theorem StandsIn.expression (h : p.StandsIn source) (bound : Precedence) :
    (p.expression bound).2.StandsIn source :=
  have frame := expression_frame p bound
  ⟨frame.mark.trans h.mark, frame.unread.trans h.unread⟩

/-- A parser in a text that did not give up is asked for an expression, with any bound, at any depth
and after any faults.  It gives a tree exactly if it tells of nothing more.  The tree is that of a
phrase that is made of the tokens used, and all numbers of the phrase are literals.  After that the
parser still stands in the text. -/
theorem expression_isSome_iff (stands : p.StandsIn source) (going : p.abandoned = false)
    (bound : Precedence) :
    ∃ told, (p.expression bound).2.faults = p.faults ++ told ∧
      ((p.expression bound).1.isSome ↔ told = []) ∧
      (∀ e, (p.expression bound).1 = some e → ∃ phrase : Phrase, phrase.Derives .sum ∧
        p.unread = phrase.tokens ++ (p.expression bound).2.unread ∧ phrase.expr? = some e ∧
        ∀ t ∈ phrase.tokens, t.kind = .number → (Literal.value? t.text).isSome) ∧
      (p.expression bound).2.StandsIn source := by
  have keeps := stands.expression bound
  rw [expression_of_going going] at keeps ⊢
  refine ⟨_, rfl, ?_⟩
  rcases Climb.expression_settles stands.eof p.room bound p.unread with
    ⟨phrase, found, used, -⟩ | ⟨treeless, told⟩
  · obtain ⟨level, derives, -, -⟩ := found.derives
    have tree := congrArg Climb.Outcome.expr? found.eq
    have faults := congrArg Climb.Outcome.faults found.eq
    refine ⟨?_, ?_, keeps⟩
    · rw [tree, faults]
      exact phrase.isSome_expr?_iff
    · intro e given
      exact ⟨phrase, derives.to_sum, used, tree.symm.trans given,
        derives.isSome_value? found.clean⟩
  · refine ⟨?_, ?_, keeps⟩
    · rw [treeless]
      simpa using told
    · intro e given
      rw [treeless] at given
      cases given

/-- A parser deep in a text, after a fault, where a group with a bad literal stands before an
operator and another group. -/
theorem expression_isSome_iff_in_group :
    let p : Parser := { ofString "$(7*(08+1)-(2))" with
      unread := (Cursor.ofString "$(7*(08+1)-(2))").tokens.drop 2
      depth := 250
      faults := [⟨.illegal "$", ⟨0, 1⟩⟩] }
    p.StandsIn "$(7*(08+1)-(2))" ∧ p.abandoned = false ∧
      (p.expression .lowest).2.faults = p.faults ++ [⟨.badLiteral "08", ⟨5, 7⟩⟩] ∧
      (p.expression .lowest).1 = none := by
  intro p
  have stands : p.StandsIn "$(7*(08+1)-(2))" := ⟨rfl, List.drop_suffix 2 _⟩
  have faults : (p.expression .lowest).2.faults = p.faults ++ [⟨.badLiteral "08", ⟨5, 7⟩⟩] := by
    decide +kernel
  refine ⟨stands, rfl, faults, ?_⟩
  obtain ⟨told, more, gives, -⟩ := expression_isSome_iff stands rfl .lowest
  have same := List.append_cancel_left (faults.symm.trans more)
  rw [← same] at gives
  simpa using gives

end Parser

end Abacus
