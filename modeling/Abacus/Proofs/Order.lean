import Abacus.Proofs.Accounting
import Abacus.Proofs.Coverage
import Abacus.Proofs.Places

/-!
# Faults are told in the order of the text

Every fault is at the place of a token, or of the end mark, and no fault begins
before one told earlier (`Parser.told_in_order`).

That places are those of tokens holds because reading commutes with moving them.

For their order each outcome is taken to lie between where its first token begins
and where the tokens left begin.  Outcomes read one after another then tell one
after another.  What does not fit are the faults told out of step.  A parenthesis
that is not closed is told one token ahead.  An operator without room is told at
the last token used, which is one token behind, so that the second of these after
the first would be out of order.

But there is always room then.  The group that is not closed took a level for
what stands in it, unless that was given up, and after the group this level is
free again.  So `InOrder` says of what is gone on with that nothing was told past
the last token used, if an operator follows and finds no room.  `Outcome.InOrder.close`
is where it has to be shown, and `Outcome.InOrder.giveUp` where it is used.
-/

namespace Abacus

namespace Climb

/-! ## Where tokens begin -/

/-- Where the next token begins, which is the mark if nothing is left. -/
def begins (mark : Token) (ts : List Token) : Nat :=
  (front mark ts).span.start

/-- Some tokens, and the mark after them, begin one after another. -/
def Ascending (mark : Token) (ts : List Token) : Prop :=
  (ts ++ [mark]).Pairwise fun t u => t.span.start ≤ u.span.start

section

variable {mark t : Token} {ts : List Token}

theorem Ascending.of_cons (h : Ascending mark (t :: ts)) : Ascending mark ts :=
  (List.pairwise_cons.1 h).2

theorem Ascending.tail (h : Ascending mark ts) : Ascending mark ts.tail := by
  cases ts with
  | nil => exact h
  | cons t ts => exact h.of_cons

/-- The next token begins no later than the one after it. -/
theorem Ascending.begins_le_tail (h : Ascending mark ts) :
    begins mark ts ≤ begins mark ts.tail := by
  cases ts with
  | nil => exact Nat.le_refl _
  | cons t ts =>
    refine (List.pairwise_cons.1 h).1 (front mark ts) ?_
    cases ts with
    | nil => exact List.mem_singleton_self mark
    | cons u us => exact List.mem_cons_self

theorem Ascending.begins_le_mark (h : Ascending mark ts) :
    begins mark ts ≤ mark.span.start := by
  cases ts with
  | nil => exact Nat.le_refl _
  | cons t ts => exact (List.pairwise_cons.1 h).1 mark (List.mem_append_right ts List.mem_cons_self)

end

/-! ## Outcomes in order -/

/-- The outcome is in order from an offset on, where some room is left. -/
structure Outcome.InOrder (mark : Token) (room offset : Nat) (o : Outcome) : Prop where
  /-- No fault begins before one told earlier. -/
  sorted : o.faults.Pairwise fun f g => f.span.start ≤ g.span.start
  /-- None begins before the offset. -/
  low : ∀ f ∈ o.faults, offset ≤ f.span.start
  /-- None begins after the next token. -/
  high : ∀ f ∈ o.faults, f.span.start ≤ begins mark o.rest
  /-- The last token used begins not before the offset. -/
  lastLow : offset ≤ o.last.start
  /-- It begins not after the next one. -/
  lastHigh : o.last.start ≤ begins mark o.rest
  /-- The tokens left begin one after another. -/
  left : Ascending mark o.rest
  /-- If an operator follows and finds no room, no fault begins after the last token used. -/
  full : room = 0 → 0 < nextRank o.rest → ∀ f ∈ o.faults, f.span.start ≤ o.last.start

section

variable {mark t : Token} {room offset : Nat} {o : Outcome} {ts : List Token}

theorem Outcome.InOrder.of_offset_le (h : o.InOrder mark room offset) {lower : Nat}
    (le : lower ≤ offset) : o.InOrder mark room lower :=
  { h with
    low := fun f mem => Nat.le_trans le (h.low f mem)
    lastLow := Nat.le_trans le h.lastLow }

/-- More room does no harm. -/
theorem Outcome.InOrder.of_room_le (h : o.InOrder mark room offset) {more : Nat}
    (le : room ≤ more) : o.InOrder mark more offset :=
  { h with full := fun spent => h.full (Nat.eq_zero_of_le_zero (spent ▸ le)) }

/-- What is told of a single token is in order. -/
theorem inOrder_of_single (h : Ascending mark (t :: ts)) (rest : o.rest = ts)
    (last : o.last = t.span) (faults : ∀ f ∈ o.faults, f.span = t.span) (room : Nat) :
    o.InOrder mark room t.span.start where
  sorted := by
    refine List.pairwise_iff_forall_sublist.2 fun {f g} pair => ?_
    rw [faults f (pair.subset (by simp)), faults g (pair.subset (by simp))]
  low f mem := by rw [faults f mem]
  high f mem := by
    rw [faults f mem, rest]
    exact h.begins_le_tail
  lastLow := by rw [last]
  lastHigh := by
    rw [last, rest]
    exact h.begins_le_tail
  left := by
    rw [rest]
    exact h.of_cons
  full _ _ f mem := by rw [faults f mem, last]

theorem refuse_inOrder (h : Ascending mark (t :: ts)) (room : Nat) :
    (refuse t ts).InOrder mark room t.span.start :=
  inOrder_of_single h rfl rfl (by simp [refuse]) room

theorem literal_inOrder (h : Ascending mark (t :: ts)) (room : Nat) :
    (literal t ts).InOrder mark room t.span.start := by
  unfold literal
  split
  · exact inOrder_of_single h rfl rfl (by simp) room
  · exact inOrder_of_single h rfl rfl (by simp) room

/-- Faults told one after another are in order if some offset lies between them. -/
theorem sorted_append {fs gs : List Fault} {middle : Nat}
    (hf : fs.Pairwise fun f g => f.span.start ≤ g.span.start)
    (hg : gs.Pairwise fun f g => f.span.start ≤ g.span.start)
    (high : ∀ f ∈ fs, f.span.start ≤ middle) (low : ∀ g ∈ gs, middle ≤ g.span.start) :
    (fs ++ gs).Pairwise fun f g => f.span.start ≤ g.span.start :=
  List.pairwise_append.2 ⟨hf, hg, fun f memF g memG => Nat.le_trans (high f memF) (low g memG)⟩

/-- Giving up at a place is in order if no fault begins after it. -/
theorem giveUp_inOrder {fs : List Fault} {place : Span} (room : Nat)
    (sorted : fs.Pairwise fun f g => f.span.start ≤ g.span.start)
    (low : ∀ f ∈ fs, offset ≤ f.span.start) (high : ∀ f ∈ fs, f.span.start ≤ place.start)
    (placeLow : offset ≤ place.start) (placeHigh : place.start ≤ mark.span.start) :
    (giveUp mark fs place).InOrder mark room offset where
  sorted := sorted_append sorted (List.pairwise_singleton _ _) high (by simp)
  low f mem := by
    rcases List.mem_append.1 mem with earlier | last
    · exact low f earlier
    · cases List.mem_singleton.1 last
      exact placeLow
  high f mem := by
    rcases List.mem_append.1 mem with earlier | last
    · exact Nat.le_trans (high f earlier) placeHigh
    · cases List.mem_singleton.1 last
      exact placeHigh
  lastLow := Nat.le_trans placeLow placeHigh
  lastHigh := Nat.le_refl _
  left := List.pairwise_singleton _ _
  full _ follows := absurd follows (Nat.lt_irrefl 0)

/-- An operator without room is told in order, because nothing was told past the last token. -/
theorem Outcome.InOrder.giveUp (h : o.InOrder mark 0 offset) (follows : 0 < nextRank o.rest)
    (room : Nat) : (Climb.giveUp mark o.faults o.last).InOrder mark room offset :=
  giveUp_inOrder room h.sorted h.low (h.full rfl follows) h.lastLow
    (Nat.le_trans h.lastHigh h.left.begins_le_mark)

/-- A group is in order whether or not it is closed.  If it is not, that is told past the last
token used, so there has to be room for an operator that follows. -/
theorem Outcome.InOrder.close {inner : Nat} (h : o.InOrder mark inner offset)
    (free : room = 0 → nextRank o.rest = 0) : (o.close mark).InOrder mark room offset := by
  by_cases closed : (front mark o.rest).kind = .closing
  · rw [close_of_closing closed]
    have passed := h.left.begins_le_tail
    exact {
      sorted := h.sorted
      low := h.low
      high := fun f mem => Nat.le_trans (h.high f mem) passed
      lastLow := Nat.le_trans h.lastLow h.lastHigh
      lastHigh := passed
      left := h.left.tail
      full := fun _ _ f mem => h.high f mem }
  · have unready (spent : room = 0) (follows : 0 < nextRank o.rest) : False :=
      absurd follows (Nat.not_lt.2 (Nat.le_of_eq (free spent)))
    cases going : o.abandoned with
    | true =>
      rw [close_of_abandoned closed going]
      exact { h with full := fun spent follows => (unready spent follows).elim }
    | false =>
      rw [close_of_ne_closing closed going]
      exact { h with
        sorted := sorted_append h.sorted (List.pairwise_singleton _ _) h.high (by simp [begins])
        low := by
          intro f mem
          rcases List.mem_append.1 mem with earlier | last
          · exact h.low f earlier
          · cases List.mem_singleton.1 last
            exact Nat.le_trans h.lastLow h.lastHigh
        high := by
          intro f mem
          rcases List.mem_append.1 mem with earlier | last
          · exact h.high f earlier
          · cases List.mem_singleton.1 last
            exact Nat.le_refl _
        full := fun spent follows => (unready spent follows).elim }

/-- What is told of a right operand comes after what was told of the left one. -/
theorem Outcome.InOrder.join {left right : Outcome} {before : Nat}
    (hl : left.InOrder mark before offset) (next : left.rest = t :: ts)
    (hr : right.InOrder mark room (begins mark ts)) :
    (left.join t right).InOrder mark room offset := by
  have ascending := hl.left
  rw [next] at ascending
  have passed : begins mark left.rest ≤ begins mark ts := by
    rw [next]
    exact ascending.begins_le_tail
  have below (f : Fault) (mem : f ∈ left.faults) : f.span.start ≤ begins mark ts :=
    Nat.le_trans (hl.high f mem) passed
  have above : offset ≤ begins mark ts := Nat.le_trans (Nat.le_trans hl.lastLow hl.lastHigh) passed
  have ends : begins mark ts ≤ begins mark right.rest := Nat.le_trans hr.lastLow hr.lastHigh
  exact {
    sorted := sorted_append hl.sorted hr.sorted below hr.low
    low := by
      intro f mem
      rcases List.mem_append.1 mem with earlier | later
      · exact hl.low f earlier
      · exact Nat.le_trans above (hr.low f later)
    high := by
      intro f mem
      rcases List.mem_append.1 mem with earlier | later
      · exact Nat.le_trans (below f earlier) ends
      · exact hr.high f later
    lastLow := Nat.le_trans above hr.lastLow
    lastHigh := hr.lastHigh
    left := hr.left
    full := by
      intro spent follows f mem
      rcases List.mem_append.1 mem with earlier | later
      · exact Nat.le_trans (below f earlier) hr.lastLow
      · exact hr.full spent follows f later }

end

/-- Without room nothing is left. -/
theorem expression_zero_rest (mark : Token) (bound : Precedence) (ts : List Token) :
    (expression mark 0 bound ts).rest = [] := by
  rw [expression]
  rfl

/-- Reading an expression tells in order, step by step.  What was read with some room is in order
with one level less of it, which is that of its first operand.  Without room after a group there was
none in it, so that the line was given up there. -/
theorem inOrder_invariant (mark : Token) :
    Invariant mark
      (fun room _ ts o => Ascending mark ts → o.InOrder mark (room - 1) (begins mark ts))
      (fun room _ left o => ∀ offset, left.InOrder mark room offset →
        o.InOrder mark room offset) where
  lacking bound ts := by
    intro ascending
    exact giveUp_inOrder _ .nil (by simp) (by simp) (Nat.le_refl _) ascending.begins_le_mark
  missing room bound := by
    intro ascending
    exact {
      sorted := List.pairwise_singleton _ _
      low := by simp [refuse, begins, front]
      high := by simp [refuse, begins, front]
      lastLow := Nat.le_refl _
      lastHigh := Nat.le_refl _
      left := ascending
      full := fun _ follows => absurd follows (Nat.lt_irrefl 0) }
  refused room bound t ts _ := by
    intro ascending
    exact refuse_inOrder ascending room
  number room bound t ts o _ gone := by
    intro ascending
    exact gone _ (literal_inOrder ascending room)
  minus room bound t ts o _ inner gone := by
    intro ascending
    have operand := (inner ascending.of_cons).of_room_le (Nat.sub_le room 1)
    have negated : ((expression mark room .sign ts).negate t).InOrder mark room
        (begins mark ts) := { operand with }
    exact gone _ (negated.of_offset_le ascending.begins_le_tail)
  opening room bound t ts o _ inner gone := by
    intro ascending
    have free (spent : room = 0) : nextRank (expression mark room .lowest ts).rest = 0 := by
      rw [spent, expression_zero_rest]
      rfl
    exact gone _ (((inner ascending.of_cons).close free).of_offset_le ascending.begins_le_tail)
  stop room bound left _ := by
    intro offset inOrder
    exact inOrder
  full bound left t ts next lt := by
    intro offset inOrder
    refine inOrder.giveUp ?_ 0
    rw [next]
    exact Nat.lt_of_le_of_lt (Nat.zero_le _) lt
  step room bound left t ts o next lt right gone := by
    intro offset inOrder
    have ascending := inOrder.left
    rw [next] at ascending
    have operand := (right ascending.of_cons).of_room_le (Nat.sub_le room 1)
    exact (gone offset (inOrder.join next operand)).of_room_le (Nat.le_succ room)

/-- The faults of a line are told in order, from where its first token begins. -/
theorem sorted_line {mark : Token} (room : Nat) {ts : List Token} (ascending : Ascending mark ts) :
    (line mark room ts).faults.Pairwise (fun f g => f.span.start ≤ g.span.start) ∧
      ∀ f ∈ (line mark room ts).faults, begins mark ts ≤ f.span.start := by
  induction ts using line.induct mark room with
  | case1 =>
    rw [line]
    exact ⟨.nil, by simp⟩
  | case2 t ts o ih =>
    have inOrder : o.InOrder mark (room - 1) (begins mark (t :: ts)) :=
      (inOrder_invariant mark).expression room .lowest (t :: ts) ascending
    obtain ⟨sorted, low⟩ := ih inOrder.left
    have passed : begins mark (t :: ts) ≤ begins mark o.rest :=
      Nat.le_trans inOrder.lastLow inOrder.lastHigh
    rw [line]
    refine ⟨sorted_append inOrder.sorted sorted inOrder.high low, ?_⟩
    intro f mem
    rcases List.mem_append.1 mem with earlier | later
    · exact inOrder.low f earlier
    · exact Nat.le_trans passed (low f later)

end Climb

/-! ## The faults of a text -/

/-- The tokens of a text begin one after another. -/
theorem ascending_tokens (source : String) :
    Climb.Ascending (Cursor.ofString source).mark (Cursor.ofString source).tokens := by
  have covers : Covers source (Cursor.ofString source).tokens :=
    (Cursor.tokens_tiles 0 source.toList).covers
  refine List.pairwise_append.2 ⟨?_, List.pairwise_singleton _ _, ?_⟩
  · refine covers.apart.imp_of_mem fun {t u} mem _ apart => ?_
    exact Nat.le_trans (Nat.le_of_lt (covers.range t mem).1) apart
  · intro t mem u last
    cases List.mem_singleton.1 last
    rw [Cursor.mark_ofString]
    exact Nat.le_trans (Nat.le_of_lt (covers.range t mem).1) (covers.range t mem).2

namespace Parser

theorem exists_token_of_mem_faults {source : String} {f : Fault}
    (mem : f ∈ (reading source).faults) : ∃ t ∈ (Cursor.ofString source).scan, f.span = t.span := by
  rw [reading_eq_relocate] at mem
  obtain ⟨g, -, rfl⟩ := List.mem_map.1 mem
  exact ⟨_, List.mem_of_getElem? ((Cursor.ofString source).getElem?_scan_min g.span.start), rfl⟩

/-- What the parser of a text tells is told at places of its tokens, the end mark included, and no
place begins before that of what was told earlier. -/
theorem told_in_order (source : String) :
    (∀ d ∈ told source, ∃ t ∈ (Cursor.ofString source).scan, d.span = t.span) ∧
      (told source).Pairwise fun d e => d.span.start ≤ e.span.start := by
  constructor
  · intro d mem
    obtain ⟨f, inside, rfl⟩ := List.mem_map.1 mem
    exact exists_token_of_mem_faults inside
  · exact List.pairwise_map.2 (Climb.sorted_line depthLimit (ascending_tokens source)).1

end Parser

end Abacus
