import Abacus.Proofs.Spelling

/-!
# How high trees get

The reader bounds the levels that it is inside of, and not the height of the
tree it builds.  It gives back the levels of an operand when the operand is
read, and counts the operators after it from there.  But the tree of the operand
stays, and every operator folded puts a node above it.

So trees get higher than there are levels.  With `room` levels, a unary gets as
high as `unaryHeight room`.  A sum may have `room - 2` operators more above its
first operand, which is `sumHeight room`, and in parentheses it is a unary for
one level more.

*The bound* is an invariant of the reader (`height_invariant`).  Going on after an
expression adds a node for each operator, and every operator takes a level and
leaves one for its operand.  The right operand is read with less room, so it is no
higher than the first operand may be, and the nodes above that are all that counts.

*Heights below* are not missed (`exists_spells_of_le_sumHeight`).

Together, `exists_parsed_height_iff` says which heights the trees of texts have:
with 256 levels, all from 1 to 32388.
-/

namespace Abacus

open Climb

/-- The most nodes on a way from the root to a leaf. -/
def Expr.height : Expr → Nat
  | int _ _ => 1
  | unary _ _ operand => 1 + operand.height
  | binary _ _ left right => 1 + max left.height right.height

theorem Expr.height_relocate (f : Span → Span) (e : Expr) : (e.relocate f).height = e.height := by
  induction e with
  | int => rfl
  | unary token operator operand ih => simp only [Expr.relocate, Expr.height, ih]
  | binary token operator left right ihl ihr => simp only [Expr.relocate, Expr.height, ihl, ihr]

theorem Expr.one_le_height (e : Expr) : 1 ≤ e.height := by
  cases e <;> simp only [height] <;> omega

/-! ## The bounds -/

/-- The height that a unary gets to with some levels. -/
def unaryHeight : Nat → Nat
  | 0 => 0
  | 1 => 1
  | 2 => 2
  | n + 3 => 3 + n * (n + 1) / 2

/-- The height that a sum gets to with some levels. -/
def sumHeight (room : Nat) : Nat :=
  unaryHeight room + (room - 2)

theorem unaryHeight_add_four (n : Nat) : unaryHeight (n + 4) = unaryHeight (n + 3) + (n + 1) := by
  have double : (n + 1) * (n + 1 + 1) = n * (n + 1) + (n + 1) * 2 := by
    rw [Nat.mul_comm n, ← Nat.mul_add]
  show 3 + (n + 1) * (n + 1 + 1) / 2 = 3 + n * (n + 1) / 2 + (n + 1)
  rw [double, Nat.add_mul_div_right _ _ (by decide), Nat.add_assoc]

/-- A sum in parentheses is a unary with one level more. -/
theorem sumHeight_le_unaryHeight (n : Nat) : sumHeight n ≤ unaryHeight (n + 1) := by
  match n with
  | 0 | 1 | 2 => decide
  | n + 3 => exact Nat.le_of_eq (unaryHeight_add_four n).symm

/-- So is a minus sign before a unary. -/
theorem unaryHeight_lt_succ (n : Nat) : unaryHeight n < unaryHeight (n + 1) := by
  match n with
  | 0 | 1 | 2 => decide
  | n + 3 =>
    rw [unaryHeight_add_four]
    omega

theorem unaryHeight_mono {m n : Nat} (h : m ≤ n) : unaryHeight m ≤ unaryHeight n := by
  induction h with
  | refl => exact Nat.le_refl _
  | step _ ih => exact Nat.le_trans ih (Nat.le_of_lt (unaryHeight_lt_succ _))

/-! ## No tree is higher -/

/-- The height that an expression gets to with some levels and a bound for its operators. -/
def heightBound (room : Nat) (bound : Precedence) : Nat :=
  if bound = .sign then unaryHeight room else sumHeight room

theorem heightBound_le (room : Nat) (bound : Precedence) :
    heightBound room bound ≤ sumHeight room := by
  unfold heightBound
  split
  · exact Nat.le_add_right ..
  · exact Nat.le_refl _

theorem sumHeight_mono {m n : Nat} (h : m ≤ n) : sumHeight m ≤ sumHeight n :=
  Nat.add_le_add (unaryHeight_mono h) (Nat.sub_le_sub_right h 2)

namespace Climb

/-- The tree of an outcome, if there is one, is at most so high. -/
def Outcome.HeightLe (o : Outcome) (h : Nat) : Prop :=
  ∀ e, o.expr? = some e → e.height ≤ h

namespace Outcome.HeightLe

variable {o : Outcome} {h : Nat}

theorem of_none (treeless : o.expr? = none) (h : Nat) : o.HeightLe h := by
  intro e tree
  rw [treeless] at tree
  cases tree

theorem mono (le : o.HeightLe h) {more : Nat} (higher : h ≤ more) : o.HeightLe more :=
  fun e tree => Nat.le_trans (le e tree) higher

theorem literal (t : Token) (ts : List Token) : (Climb.literal t ts).HeightLe 1 := by
  intro e tree
  unfold Climb.literal at tree
  split at tree
  · cases tree
    exact Nat.le_refl 1
  · cases tree

theorem negate (le : o.HeightLe h) (t : Token) : (o.negate t).HeightLe (1 + h) := by
  intro e tree
  obtain ⟨operand, inner, rfl⟩ := Option.map_eq_some_iff.1 tree
  exact Nat.add_le_add_left (le operand inner) 1

theorem close (le : o.HeightLe h) (mark : Token) : (o.close mark).HeightLe h := by
  unfold Outcome.close
  split
  · exact le
  · split <;> exact of_none rfl h

theorem join {left right : Outcome} (first : left.HeightLe h) (second : right.HeightLe h)
    (t : Token) : (left.join t right).HeightLe (h + 1) := by
  intro e tree
  obtain ⟨l, treeL, tree⟩ := Option.bind_eq_some_iff.1 tree
  obtain ⟨r, treeR, rfl⟩ := Option.map_eq_some_iff.1 tree
  have heightL := first l treeL
  have heightR := second r treeR
  simp only [Expr.height]
  omega

/-- No tree is joined where there is no tree on the right. -/
theorem join_zero (left : Outcome) {right : Outcome} (treeless : right.HeightLe 0) (t : Token)
    (h : Nat) : (left.join t right).HeightLe h := by
  intro e tree
  obtain ⟨l, -, tree⟩ := Option.bind_eq_some_iff.1 tree
  obtain ⟨r, treeR, -⟩ := Option.map_eq_some_iff.1 tree
  exact absurd r.one_le_height (Nat.not_le_of_lt (Nat.lt_succ_of_le (treeless r treeR)))

end Outcome.HeightLe

/-- Going on with some levels after an expression of a height: no operator follows a unary, and
otherwise each one takes a level and leaves one for its operand. -/
def Outcome.GrowsWithin (room : Nat) (bound : Precedence) (left o : Outcome) : Prop :=
  ∀ h, sumHeight (room - 1) ≤ h → left.HeightLe h →
    o.HeightLe (if bound = .sign then h else h + (room - 1))

/-- What is read of a first operand, which is no higher than a unary, and what follows it. -/
theorem Outcome.GrowsWithin.heightLe {room : Nat} {bound : Precedence} {left o : Outcome}
    (gone : GrowsWithin room bound left o) (first : left.HeightLe (unaryHeight (room + 1))) :
    o.HeightLe (heightBound (room + 1) bound) := by
  refine gone (unaryHeight (room + 1)) ?_ first
  calc
    sumHeight (room - 1) ≤ sumHeight room := sumHeight_mono (Nat.sub_le room 1)
    _ ≤ unaryHeight (room + 1) := sumHeight_le_unaryHeight room

/-- Reading an expression keeps the bound, step by step. -/
theorem height_invariant (mark : Token) :
    Invariant mark (fun room bound _ o => o.HeightLe (heightBound room bound))
      Outcome.GrowsWithin where
  lacking _ _ := .of_none rfl _
  missing _ _ := .of_none rfl _
  refused _ _ _ _ _ := .of_none rfl _
  number room _ t ts _ _ gone :=
    gone.heightLe ((Outcome.HeightLe.literal t ts).mono (unaryHeight_mono (Nat.le_add_left 1 room)))
  minus room _ t _ _ _ inner gone := by
    refine gone.heightLe ((inner.negate t).mono ?_)
    rw [heightBound, if_pos rfl, Nat.add_comm]
    exact unaryHeight_lt_succ room
  opening room _ _ _ _ _ inner gone :=
    gone.heightLe ((inner.close mark).mono (sumHeight_le_unaryHeight room))
  stop room bound left _ := by
    intro h _ le
    refine le.mono ?_
    split <;> omega
  full _ _ _ _ _ _ := fun _ _ _ => .of_none rfl _
  step room bound left t ts o _ lt right gone := by
    intro h low le
    have binary : bound ≠ .sign := by
      rintro rfl
      exact absurd lt (Nat.not_lt_of_le (Nat.le_succ_of_le (Precedence.ofKind_rank_le_two t.kind)))
    rw [if_neg binary]
    have operand := right.mono (heightBound_le room (.ofKind t.kind))
    cases room with
    | zero =>
      have grown := gone h low (Outcome.HeightLe.join_zero left operand t h)
      rwa [if_neg binary] at grown
    | succ room =>
      have joined := le.join (operand.mono low) t
      have grown := gone (h + 1) ?_ joined
      · rw [if_neg binary] at grown
        exact grown.mono (by omega)
      · exact Nat.le_succ_of_le (Nat.le_trans (sumHeight_mono (Nat.sub_le _ 1)) low)

/-- The trees of a line are within the bound. -/
theorem height_le_of_mem_line {mark : Token} {room : Nat} {ts : List Token} {e : Expr}
    (mem : e ∈ (line mark room ts).exprs) : e.height ≤ sumHeight room := by
  induction ts using line.induct mark room with
  | case1 =>
    rw [line] at mem
    cases mem
  | case2 t ts o ih =>
    rw [line] at mem
    rcases List.mem_append.1 mem with here | later
    · have first : o.HeightLe (sumHeight room) :=
        (height_invariant mark).expression room .lowest (t :: ts)
      exact first e (Option.mem_toList.1 here)
    · exact ih later

end Climb

/-! ## No height below is missed -/

/-- The bare token of the number one. -/
def Token.one : Token :=
  ⟨.number, "1", ⟨0, 0⟩⟩

theorem bareTokens_one : bareTokens ['1'] = [.one] := by
  decide +kernel

theorem expr?_one : (Phrase.number .one).expr? = some (.int .one 1) := by
  decide +kernel

theorem spells_one : Spells ['1'] (.number .one) (.int .one 1) where
  derives := (Phrase.Derives.number rfl).to_sum
  tokens := bareTokens_one
  tree := expr?_one

/-- Characters with `+1` at the end spell one operator more. -/
theorem Spells.add_one {cs : List Char} {p : Phrase} {e : Expr} (h : Spells cs p e) :
    Spells (cs ++ ['+', '1']) (.operation p (.ofSymbol .plus '+') (.number .one))
      (.binary (.ofSymbol .plus '+') "+" e (.int .one 1)) :=
  h.join spells_one h.derives (.number rfl) rfl (by decide) (Precedence.below_sign _) (by decide)

/-- Any number of operators can be put at the end of a phrase that has none outside its operands. -/
theorem Spells.add_ones {cs : List Char} {p : Phrase} {e : Expr} (h : Spells cs p e)
    (unfolded : p.folds = 0) : ∀ k : Nat, ∃ ds q f, Spells ds q f ∧ q.folds = k ∧
      q.need ≤ max p.need (k + 2) ∧ f.height = e.height + k
  | 0 => ⟨cs, p, e, h, unfolded, Nat.le_max_left .., rfl⟩
  | k + 1 => by
    obtain ⟨ds, q, f, spells, folds, need, height⟩ := h.add_ones unfolded k
    have positive := f.one_le_height
    refine ⟨_, _, _, spells.add_one, ?_, ?_, ?_⟩
    · simp only [Phrase.folds]
      omega
    · simp only [Phrase.need]
      omega
    · simp only [Expr.height]
      omega

/-- With at least three levels, sums have all heights from three to `sumHeight`. -/
theorem exists_spells_of_le_sumHeight : ∀ (n h : Nat), 3 ≤ h → h ≤ sumHeight (n + 3) →
    ∃ cs p e, Spells cs p e ∧ p.need ≤ n + 3 ∧ e.height = h
  | 0, h, low, high => by
    have spells := (spells_one.negation (.number rfl)).negation (.negation rfl (.number rfl))
    obtain ⟨ds, q, f, spells', _, need, height⟩ := spells.add_ones rfl (h - 3)
    have highest : h ≤ 4 := high
    simp only [Phrase.need] at need
    simp only [Expr.height] at height
    exact ⟨ds, q, f, spells', by omega, by omega⟩
  | n + 1, h, low, high => by
    by_cases lower : h ≤ sumHeight (n + 3)
    · obtain ⟨cs, p, e, spells, need, height⟩ := exists_spells_of_le_sumHeight n h low lower
      exact ⟨cs, p, e, spells, Nat.le_succ_of_le need, height⟩
    · have least : 3 ≤ sumHeight (n + 3) := Nat.le_trans (Nat.le_add_right ..) (Nat.le_add_right ..)
      have top : sumHeight (n + 4) = sumHeight (n + 3) + (n + 2) :=
        congrArg (· + (n + 2)) (unaryHeight_add_four n)
      have highest : h ≤ sumHeight (n + 3) + (n + 2) := Nat.le_trans high (Nat.le_of_eq top)
      obtain ⟨cs, p, e, spells, need, height⟩ :=
        exists_spells_of_le_sumHeight n _ least (Nat.le_refl _)
      obtain ⟨ds, q, f, spells', _, need', height'⟩ :=
        spells.grouped.add_ones rfl (h - sumHeight (n + 3))
      have deeper : p.grouped.need = 1 + p.need := rfl
      exact ⟨ds, q, f, spells', by omega, by omega⟩

/-! ## Texts -/

/-- A text that spells a phrase within the levels is read as a tree of the same height. -/
theorem Spells.exists_exprs_eq {source : String} {p : Phrase} {e : Expr}
    (h : Spells source.toList p e) (enough : p.need ≤ depthLimit) :
    ∃ read, (Parser.ofString source).line.1 = [read] ∧ read.height = e.height := by
  obtain ⟨-, read, single, rfl⟩ := h.line_eq enough
  exact ⟨read, single, (Expr.height_relocate _ read).symm⟩

/-- The trees that texts are read to have all heights from 1 to 32388, and no others. -/
theorem exists_parsed_height_iff (h : Nat) :
    (∃ source, ∃ e ∈ (Parser.ofString source).line.1, e.height = h) ↔ 1 ≤ h ∧ h ≤ 32388 := by
  have top : sumHeight depthLimit = 32388 := by decide
  constructor
  · rintro ⟨source, e, mem, rfl⟩
    exact ⟨e.one_le_height, top ▸ height_le_of_mem_line mem⟩
  · rintro ⟨low, high⟩
    have spelled : ∃ cs p e, Spells cs p e ∧ p.need ≤ depthLimit ∧ e.height = h := by
      match h, low with
      | 1, _ => exact ⟨_, _, _, spells_one, by decide, rfl⟩
      | 2, _ => exact ⟨_, _, _, spells_one.negation (.number rfl), by decide, rfl⟩
      | h + 3, _ =>
        rw [← top] at high
        exact exists_spells_of_le_sumHeight 253 (h + 3) (Nat.le_add_left ..) high
    obtain ⟨cs, p, e, spells, enough, height⟩ := spelled
    rw [← @String.toList_ofList cs] at spells
    obtain ⟨read, single, same⟩ := spells.exists_exprs_eq enough
    exact ⟨.ofList cs, read, by rw [single]; exact List.mem_cons_self, same.trans height⟩

/-- Two operators folded above a number with as many signs as they leave levels for make a tree
that is higher than there are levels, and it is read without a fault. -/
theorem height_line_signs_ones :
    let (exprs, parser) := (Parser.ofString (.ofList (.replicate 254 '-') ++ "1+1+1")).line
    exprs.map Expr.height = [257] ∧ parser.faults = [] := by
  decide +kernel

end Abacus
