import Abacus.Proofs.Rendering

/-!
# The grammar is unambiguous

Tokens are those of one tree at most.  The rules say nothing of this, and it
needs no induction on them: every phrase that is derived is what the reader reads
where its tokens stand, the reader is a function, and there is always some room
that is enough for two phrases (`Phrase.Derives.outcome_unique`).  So minus signs
belong to the operands or are operators in one way only, and left operands end
in one place, and a line is cut into expressions in one way
(`IsLine.trees_unique`).

No depth is asked for, because the room is chosen to suit the phrases.  So a tree
whose canonical form takes too many levels to be read again is known by its
form as any other tree is.  Two trees that texts are read to and that have the same
form are the same but for places (`Parser.render_identifies_trees`).
-/

namespace Abacus

open Climb

/-! ## Phrases and lines -/

/-- Of two sums with which the same tokens begin, and which no operator follows, both have the same
tree, the same faults and the same tokens after them. -/
theorem Phrase.Derives.outcome_unique {p q : Phrase} {rest others : List Token}
    (derivesP : p.Derives .sum) (derivesQ : q.Derives .sum) (stopsP : nextRank rest ≤ 0)
    (stopsQ : nextRank others ≤ 0) (same : p.tokens ++ rest = q.tokens ++ others) :
    p.expr? = q.expr? ∧ p.faults = q.faults ∧ rest = others := by
  have below : Precedence.lowest.Below .sum := Precedence.below_of_lt (by decide)
  have readP := (derivesP.isRead .bareMark).expression_eq_outcome below stopsP
    (Nat.le_max_left p.need q.need)
  have readQ := (derivesQ.isRead .bareMark).expression_eq_outcome below stopsQ
    (Nat.le_max_right p.need q.need)
  have outcomes : p.outcome rest = q.outcome others := by
    rw [← readP, ← readQ, same]
  exact ⟨congrArg Outcome.expr? outcomes, congrArg Outcome.faults outcomes,
    congrArg Outcome.rest outcomes⟩

theorem flatMap_tokens_ne_nil (p : Phrase) (ps : List Phrase) :
    (p :: ps).flatMap Phrase.tokens ≠ [] := by
  obtain ⟨ts, tokens⟩ := p.exists_tokens_eq_cons
  rw [List.flatMap_cons, tokens, List.cons_append]
  exact List.cons_ne_nil _ _

/-- Two lines of the same tokens have the same trees. -/
theorem IsLine.trees_unique {ps qs : List Phrase} (linePs : IsLine ps) (lineQs : IsLine qs)
    (same : ps.flatMap Phrase.tokens = qs.flatMap Phrase.tokens) :
    ps.map Phrase.expr? = qs.map Phrase.expr? := by
  induction ps generalizing qs with
  | nil =>
    cases qs with
    | nil => rfl
    | cons q qs => exact absurd same.symm (flatMap_tokens_ne_nil q qs)
  | cons p ps ih =>
    cases qs with
    | nil => exact absurd same (flatMap_tokens_ne_nil p ps)
    | cons q qs =>
      rw [List.flatMap_cons, List.flatMap_cons] at same
      obtain ⟨tree, -, later⟩ := (linePs.sums p List.mem_cons_self).outcome_unique
        (lineQs.sums q List.mem_cons_self) linePs.nextRank_tail lineQs.nextRank_tail same
      rw [List.map_cons, List.map_cons, tree, ih linePs.tail lineQs.tail later]

/-- The same characters spell one tree only. -/
theorem Spells.tree_unique {cs : List Char} {p q : Phrase} {e f : Expr} (spellsP : Spells cs p e)
    (spellsQ : Spells cs q f) : e = f := by
  have same : [p].flatMap Phrase.tokens = [q].flatMap Phrase.tokens := by
    rw [← spellsP.bareTokens_eq_flatMap, ← spellsQ.bareTokens_eq_flatMap]
  have trees := spellsP.isLine.trees_unique spellsQ.isLine same
  rw [List.map_singleton, List.map_singleton, spellsP.tree, spellsQ.tree] at trees
  exact Option.some.inj (List.singleton_inj.1 trees)

/-! ## Canonical forms -/

/-- The canonical form of a tree of lexemes says all of the tree but the places. -/
theorem Expr.IsSpelled.bare_eq_of_render_eq {e f : Expr} (spelledE : e.IsSpelled)
    (spelledF : f.IsSpelled) (same : e.render = f.render) : e.bare = f.bare := by
  obtain ⟨p, -, -, spellsE⟩ := spelledE.spells
  obtain ⟨q, -, -, spellsF⟩ := spelledF.spells
  rw [same] at spellsE
  exact spellsE.tree_unique spellsF

/-- Two trees that texts are read to have the same canonical form only if they differ in nothing but
the places of their tokens.  So they have the same value.  The canonical form may be nested too
deeply to be read. -/
theorem Parser.render_identifies_trees {a b : String} {e f : Expr}
    (memE : e ∈ (Parser.ofString a).line.1) (memF : f ∈ (Parser.ofString b).line.1)
    (same : e.render = f.render) : e.bare = f.bare ∧ e.eval = f.eval := by
  have bare := (isSpelled_of_mem_line memE).bare_eq_of_render_eq (isSpelled_of_mem_line memF) same
  refine ⟨bare, ?_⟩
  calc e.eval
    _ = e.bare.eval := (e.eval_relocate _).symm
    _ = f.bare.eval := by rw [bare]
    _ = f.eval := f.eval_relocate _

/-- A sum with blanks, and the same sum with parentheses and an illegal character. -/
theorem Parser.render_identifies_trees_in_two_layouts :
    let sum (minus ten plus two times three : Span) : Expr :=
      .binary ⟨.plus, "+", plus⟩ "+"
        (.unary ⟨.minus, "-", minus⟩ "-" (.int ⟨.number, "0x1_0", ten⟩ 16))
        (.binary ⟨.times, "*", times⟩ "*" (.int ⟨.number, "2", two⟩ 2)
          (.int ⟨.number, "3", three⟩ 3))
    let e := sum ⟨0, 1⟩ ⟨1, 6⟩ ⟨7, 8⟩ ⟨9, 10⟩ ⟨11, 12⟩ ⟨13, 14⟩
    let f := sum ⟨1, 2⟩ ⟨2, 7⟩ ⟨8, 9⟩ ⟨10, 11⟩ ⟨11, 12⟩ ⟨12, 13⟩
    e ∈ (ofString "-0x1_0 + 2 * 3").line.1 ∧ f ∈ (ofString "(-0x1_0)+(2*3)$").line.1 ∧
      e.render = f.render ∧ e.bare = f.bare ∧ e.eval = f.eval := by
  intro sum e f
  have memE : e ∈ (ofString "-0x1_0 + 2 * 3").line.1 := by decide +kernel
  have memF : f ∈ (ofString "(-0x1_0)+(2*3)$").line.1 := by decide +kernel
  have same : e.render = f.render := by decide +kernel
  exact ⟨memE, memF, same, render_identifies_trees memE memF same⟩

end Abacus
