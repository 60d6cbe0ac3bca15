import Abacus.Expr.Parser
import Abacus.Proofs.Recognition

/-!
# The parser accepts its grammar

What reading a line gives, in terms of the grammar.

* The tokens of a line with enough room for each of its phrases give the trees
  of the phrases that have one, and the faults of the others
  (`line_eq_of_isLine`).
* Where one of them needs more room than there is, reading gives up
  (`line_cutShort_of_isLine`), and if the phrases have no faults, want of room is
  the only fault (`line_tooDeep_of_isLine`).
* Where reading finds no fault, the tokens are those of a line
  (`exists_isLine_of_faults_eq_nil`).

`Parser.line_accepts_exactly` puts these together for the parser of a source text.
-/

namespace Abacus

open Climb

/-! ## Lines of phrases -/

/-- A phrase that begins with no minus sign begins with no operator. -/
theorem Phrase.Derives.ofKind_head {level : Precedence} {p : Phrase} (h : p.Derives level)
    (unsigned : p.head.kind ≠ .minus) : Precedence.ofKind p.head.kind = .lowest := by
  rcases h.head_kind with kind | kind | kind
  · rw [kind]
    rfl
  · exact absurd kind unsigned
  · rw [kind]
    rfl

/-- No operator follows a phrase of a line. -/
theorem IsLine.nextRank_tail {p : Phrase} {ps : List Phrase} (h : IsLine (p :: ps)) :
    nextRank (ps.flatMap Phrase.tokens) ≤ 0 := by
  cases ps with
  | nil => exact Nat.le_refl 0
  | cons q qs =>
    have mem : q ∈ (p :: q :: qs).tail := List.mem_cons_self
    have kind := (h.sums q (List.mem_of_mem_tail mem)).ofKind_head (h.unsigned q mem)
    obtain ⟨ts, tokens⟩ := q.exists_tokens_eq_cons
    rw [List.flatMap_cons, tokens, List.cons_append]
    exact nextRank_le_of_ofKind_eq _ kind

/-- A sum may stand before a line that no operator begins. -/
theorem IsLine.cons {p : Phrase} {ps : List Phrase} (h : IsLine ps) (sum : p.Derives .sum)
    (stops : nextRank (ps.flatMap Phrase.tokens) ≤ 0) : IsLine (p :: ps) := by
  refine ⟨?_, ?_⟩
  · intro q hq
    rcases List.mem_cons.1 hq with rfl | hq
    · exact sum
    · exact h.sums q hq
  · cases ps with
    | nil => simp
    | cons first ps =>
      intro q hq minus
      rcases List.mem_cons.1 hq with rfl | hq
      · obtain ⟨ts, tokens⟩ := q.exists_tokens_eq_cons
        rw [List.flatMap_cons, tokens, List.cons_append, nextRank_cons, minus] at stops
        exact absurd stops (by decide)
      · exact h.unsigned q hq minus

/-! ## Reading lines -/

namespace Climb

/-- A line with tokens left is an expression and what is left after it. -/
theorem line_of_ne_nil (mark : Token) (room : Nat) {ts : List Token} (h : ts ≠ []) :
    line mark room ts =
      .cons (expression mark room .lowest ts)
        (line mark room (expression mark room .lowest ts).rest) := by
  cases ts with
  | nil => exact absurd rfl h
  | cons t ts => rw [line]

theorem line_tokens_append (mark : Token) (room : Nat) (p : Phrase) (rest : List Token) :
    line mark room (p.tokens ++ rest) =
      .cons (expression mark room .lowest (p.tokens ++ rest))
        (line mark room (expression mark room .lowest (p.tokens ++ rest)).rest) := by
  refine line_of_ne_nil mark room ?_
  obtain ⟨ts, h⟩ := p.exists_tokens_eq_cons
  simp [h]

/-- Where there is room for every phrase of a line, reading gives the trees of the phrases that have
one, and the faults of the others. -/
theorem line_eq_of_isLine (mark : Token) {room : Nat} {ps : List Phrase} (h : IsLine ps)
    (enough : ∀ p ∈ ps, p.need ≤ room) :
    line mark room (ps.flatMap Phrase.tokens) =
      ⟨ps.filterMap Phrase.expr?, ps.flatMap Phrase.faults, false⟩ := by
  induction ps with
  | nil =>
    rw [List.flatMap_nil, line]
    rfl
  | cons p ps ih =>
    have first : expression mark room .lowest (p.tokens ++ ps.flatMap Phrase.tokens) =
        p.outcome (ps.flatMap Phrase.tokens) :=
      ((h.sums p List.mem_cons_self).isRead mark).expression_eq_outcome
        (Precedence.below_of_lt (by decide)) h.nextRank_tail (enough p List.mem_cons_self)
    have others := ih h.tail fun q hq => enough q (List.mem_cons_of_mem p hq)
    rw [List.flatMap_cons, line_tokens_append, first]
    simp only [Phrase.outcome, others, Reading.cons]
    cases tree : p.expr? with
    | none => simp [tree]
    | some e => simp [tree]

/-- Where there is not room for all phrases of a line, reading gives up at the first that there is
no room for.  The trees are those of the phrases before it, and what is noted before want of room is
an initial part of the faults of all phrases. -/
theorem line_cutShort_of_isLine {mark : Token} (eof : mark.kind = .eof) {room : Nat}
    {ps : List Phrase} (h : IsLine ps) (lacks : ∃ p ∈ ps, room < p.need) :
    ∃ fs place, fs <+: ps.flatMap Phrase.faults ∧
      line mark room (ps.flatMap Phrase.tokens) =
        ⟨(ps.takeWhile (·.need ≤ room)).filterMap Phrase.expr?, fs ++ [⟨.tooDeep, place⟩],
          true⟩ := by
  induction ps with
  | nil => simp at lacks
  | cons p ps ih =>
    have sum := h.sums p List.mem_cons_self
    have below : Precedence.lowest.Below .sum := Precedence.below_of_lt (by decide)
    rw [List.flatMap_cons, List.flatMap_cons, line_tokens_append]
    by_cases enough : p.need ≤ room
    · have first := (sum.isRead mark).expression_eq_outcome below h.nextRank_tail enough
      have later : ∃ q ∈ ps, room < q.need := by
        obtain ⟨q, hq, lacks⟩ := lacks
        rcases List.mem_cons.1 hq with rfl | hq
        · exact absurd enough (Nat.not_le.2 lacks)
        · exact ⟨q, hq, lacks⟩
      obtain ⟨fs, place, noted, others⟩ := ih h.tail later
      refine ⟨p.faults ++ fs, place, (List.prefix_append_right_inj _).2 noted, ?_⟩
      rw [first]
      simp only [Phrase.outcome, Reading.cons, others, List.append_assoc]
      cases tree : p.expr? with
      | none => simp [enough, tree]
      | some e => simp [enough, tree]
    · obtain ⟨fs, place, noted, first⟩ := sum.isCutShort eof below
        (Nat.le_succ_of_le h.nextRank_tail) (Nat.lt_of_not_le enough)
      refine ⟨fs, place, noted.trans (List.prefix_append _ _), ?_⟩
      rw [first, giveUp, line]
      simp [Reading.cons, enough]

/-- Where the phrases of a line have no faults, and there is not room for all of them, want of room
is the one fault.  The trees are those of the phrases before the first that there is no room for. -/
theorem line_tooDeep_of_isLine {mark : Token} (eof : mark.kind = .eof) {room : Nat}
    {ps : List Phrase} (h : IsLine ps) (clean : ∀ p ∈ ps, p.faults = [])
    (lacks : ∃ p ∈ ps, room < p.need) :
    ∃ place, line mark room (ps.flatMap Phrase.tokens) =
      ⟨(ps.takeWhile (·.need ≤ room)).filterMap Phrase.expr?, [⟨.tooDeep, place⟩], true⟩ := by
  obtain ⟨fs, place, noted, cut⟩ := line_cutShort_of_isLine eof h lacks
  rw [List.flatMap_eq_nil_iff.2 clean, List.prefix_nil] at noted
  rw [noted, List.nil_append] at cut
  exact ⟨place, cut⟩

/-- Where reading finds no fault, the tokens are those of a line of phrases without faults that
there is room for. -/
theorem exists_isLine_of_faults_eq_nil {mark : Token} (eof : mark.kind = .eof) (room : Nat)
    (ts : List Token) (clean : (line mark room ts).faults = []) :
    ∃ ps, IsLine ps ∧ ts = ps.flatMap Phrase.tokens ∧
      ∀ p ∈ ps, p.faults = [] ∧ p.need ≤ room := by
  induction ts using line.induct mark room with
  | case1 => exact ⟨[], .nil, rfl, by simp⟩
  | case2 t ts o ih =>
    rw [line] at clean
    obtain ⟨first, others⟩ := List.append_eq_nil_iff.1 clean
    rcases expression_settles eof room .lowest (t :: ts) with ⟨p, found, used, stops⟩ | failed
    · obtain ⟨ps, isLine, tokens, good⟩ := ih others
      obtain ⟨level, derives, _, _⟩ := found.derives
      refine ⟨p :: ps, isLine.cons derives.to_sum (by rw [← tokens]; exact stops), ?_, ?_⟩
      · rw [List.flatMap_cons, ← tokens]
        exact used
      · intro q hq
        rcases List.mem_cons.1 hq with rfl | hq
        · exact ⟨found.clean, found.enough⟩
        · exact good q hq
    · exact absurd first failed.2

/-- A tree that a line is read to is that of a phrase of its tokens that there was room for. -/
theorem exists_phrase_of_mem_line {mark : Token} (eof : mark.kind = .eof) {room : Nat}
    {ts : List Token} {e : Expr} (mem : e ∈ (line mark room ts).exprs) :
    ∃ p : Phrase, (p.Derives .sum ∧ p.need ≤ room ∧ p.expr? = some e) ∧
      ∀ t ∈ p.tokens, t ∈ ts := by
  induction ts using line.induct mark room with
  | case1 =>
    rw [line] at mem
    cases mem
  | case2 t ts o ih =>
    rw [line] at mem
    rcases List.mem_append.1 mem with first | later
    · have tree := Option.mem_toList.1 first
      rcases expression_settles eof room .lowest (t :: ts) with ⟨p, found, used, _⟩ | failed
      · obtain ⟨level, derives, _, _⟩ := found.derives
        refine ⟨p, ⟨derives.to_sum, found.enough, ?_⟩, ?_⟩
        · rw [← tree, found.eq, Phrase.outcome]
        · intro u inside
          rw [used]
          exact List.mem_append_left _ inside
      · rw [failed.1] at tree
        cases tree
    · obtain ⟨p, read, within⟩ := ih later
      refine ⟨p, read, fun u inside => ?_⟩
      have left := (expression_rest_suffix mark room .lowest (t :: ts)).subset (within u inside)
      exact List.mem_cons_of_mem t left

end Climb

/-! ## The parser of a text -/

namespace Parser

/-- What the parser of a text reads. -/
def reading (source : String) : Reading :=
  Climb.line (Cursor.ofString source).mark depthLimit (Cursor.ofString source).tokens

@[simp] theorem line_ofString_exprs (source : String) :
    (ofString source).line.1 = (reading source).exprs := rfl

@[simp] theorem line_ofString_faults (source : String) :
    (ofString source).line.2.faults = (reading source).faults := rfl

theorem map_some_filterMap_expr? {ps : List Phrase} (clean : ∀ p ∈ ps, p.faults = []) :
    (ps.filterMap Phrase.expr?).map some = ps.map Phrase.expr? := by
  induction ps with
  | nil => rfl
  | cons p ps ih =>
    obtain ⟨e, tree⟩ := Option.isSome_iff_exists.1
      (p.isSome_expr?_iff.2 (clean p List.mem_cons_self))
    rw [List.filterMap_cons_some tree, List.map_cons, List.map_cons, tree,
      ih fun q hq => clean q (List.mem_cons_of_mem p hq)]

/-- The parser accepts exactly its grammar.  If the tokens of a text are grammatical, then its
expressions are the trees of the phrases and there is no fault, provided that no phrase takes more
levels than there are.  If one does, that is the one fault.  If there is no fault, then the tokens
are grammatical in the way of some phrases, none of which takes too many levels. -/
theorem line_accepts_exactly (source : String) :
    (∀ ps, Grammatical (Cursor.ofString source).tokens ps →
      (Shallow ps → (ofString source).line.2.faults = [] ∧
        (ofString source).line.1.map some = ps.map Phrase.expr?) ∧
      (¬ Shallow ps → ∃ place, (ofString source).line.2.faults = [⟨.tooDeep, place⟩])) ∧
    ((ofString source).line.2.faults = [] →
      ∃ ps, Grammatical (Cursor.ofString source).tokens ps ∧ Shallow ps) := by
  have eof : (Cursor.ofString source).mark.kind = .eof := rfl
  simp only [line_ofString_exprs, line_ofString_faults, reading]
  refine ⟨fun ps h => ⟨fun shallow => ?_, fun deep => ?_⟩, fun clean => ?_⟩
  · rw [h.tokens, line_eq_of_isLine _ h.line shallow]
    exact ⟨List.flatMap_eq_nil_iff.2 h.faults_eq_nil, map_some_filterMap_expr? h.faults_eq_nil⟩
  · simp only [Shallow, Classical.not_forall, Nat.not_le] at deep
    obtain ⟨p, hp, lacks⟩ := deep
    obtain ⟨place, tooDeep⟩ := line_tooDeep_of_isLine eof h.line h.faults_eq_nil ⟨p, hp, lacks⟩
    rw [h.tokens, tooDeep]
    exact ⟨place, rfl⟩
  · obtain ⟨ps, isLine, tokens, good⟩ := exists_isLine_of_faults_eq_nil eof depthLimit _ clean
    refine ⟨ps, ⟨isLine, tokens, ?_⟩, fun p hp => (good p hp).2⟩
    intro t ht number
    rw [tokens] at ht
    obtain ⟨p, hp, ht⟩ := List.mem_flatMap.1 ht
    exact (isLine.sums p hp).isSome_value? (good p hp).1 t ht number

/-- A product that begins with a sign, and a number after it. -/
theorem line_accepts_product_and_number :
    let two : Phrase := .number ⟨.number, "2", ⟨1, 2⟩⟩
    let three : Phrase := .number ⟨.number, "3", ⟨3, 4⟩⟩
    let four : Phrase := .number ⟨.number, "4", ⟨5, 6⟩⟩
    let product : Phrase :=
      .operation (.negation ⟨.minus, "-", ⟨0, 1⟩⟩ two) ⟨.times, "*", ⟨2, 3⟩⟩ three
    Grammatical (Cursor.ofString "-2*3 4").tokens [product, four] ∧ Shallow [product, four] ∧
      (ofString "-2*3 4").line.2.faults = [] ∧
      (ofString "-2*3 4").line.1.map some = [product.expr?, four.expr?] := by
  intro two three four product
  have grammatical : Grammatical (Cursor.ofString "-2*3 4").tokens [product, four] := by
    refine ⟨⟨?_, ?_⟩, by decide +kernel, by decide +kernel⟩
    · intro p mem
      simp only [List.mem_cons, List.not_mem_nil, or_false] at mem
      rcases mem with rfl | rfl
      · exact .product (.multiply (.unary (.negation rfl (.number rfl))) (.inl rfl) (.number rfl))
      · exact .product (.unary (.number rfl))
    · intro p mem
      rw [List.mem_singleton.1 mem]
      decide
  have shallow : Shallow [product, four] := by
    intro p mem
    simp only [List.mem_cons, List.not_mem_nil, or_false] at mem
    rcases mem with rfl | rfl <;> decide
  have accepted := (line_accepts_exactly "-2*3 4").1 [product, four] grammatical
  exact ⟨grammatical, shallow, accepted.1 shallow⟩

end Parser

end Abacus
