import Abacus.Proofs.Scanning

/-!
# Texts that spell a phrase

Characters *spell* a phrase with a tree if the phrase is a sum and its tokens
are their bare tokens.  Spelling is closed under putting characters together as
phrases are: in parentheses, with an operator between two in parentheses, and
with a minus sign before a unary.

Spelling is tied to reading in both directions.  A text that spells a phrase
within the levels is read as the tree of that phrase (`Spells.line_eq`), and one
that spells a phrase beyond them is given up (`Spells.line_tooDeep`).  A text that
has an answer spells a phrase, and the answer is the value of its tree
(`exists_spells_of_interpret`).
-/

namespace Abacus

open Climb

/-- The characters are those of a phrase that is a sum and has a tree. -/
structure Spells (cs : List Char) (p : Phrase) (e : Expr) : Prop where
  /-- The phrase is a sum. -/
  derives : p.Derives .sum
  /-- Its tokens are the bare tokens of the characters. -/
  tokens : bareTokens cs = p.tokens
  /-- It has the tree. -/
  tree : p.expr? = some e

/-! ## Putting characters together -/

/-- The phrase in parentheses, without places. -/
def Phrase.grouped (p : Phrase) : Phrase :=
  .group (.ofSymbol .opening '(') p (.ofSymbol .closing ')')

theorem bareTokens_grouped {cs : List Char} {p : Phrase} (h : bareTokens cs = p.tokens)
    (rest : List Char) :
    bareTokens ('(' :: (cs ++ ')' :: rest)) = p.grouped.tokens ++ bareTokens rest := by
  have opening : Token.Kind.ofSymbol? '(' = some .opening := rfl
  have closing : Token.Kind.ofSymbol? ')' = some .closing := rfl
  rw [bareTokens_symbol opening, bareTokens_append (isDelimiter_of_ofSymbol?_eq_some closing),
    bareTokens_symbol closing, h, Phrase.grouped, Phrase.tokens, List.cons_append,
    List.append_assoc]
  rfl

namespace Spells

variable {cs ds : List Char} {p q : Phrase} {e f : Expr}

theorem derives_grouped (h : Spells cs p e) : p.grouped.Derives .sign :=
  .group rfl h.derives rfl

/-- Characters in parentheses spell the phrase in parentheses, which has the same tree. -/
theorem grouped (h : Spells cs p e) : Spells ('(' :: (cs ++ [')'])) p.grouped e where
  derives := h.derives_grouped.to_sum
  tokens := by rw [bareTokens_grouped h.tokens, bareTokens_nil, List.append_nil]
  tree := h.tree

/-- Characters with an operator between them spell the operation, if the rules join the phrases. -/
theorem join {c : Char} {kind : Token.Kind} {level tighter : Precedence} (first : Spells cs p e)
    (second : Spells ds q f) (derivesP : p.Derives level) (derivesQ : q.Derives tighter)
    (symbol : Token.Kind.ofSymbol? c = some kind)
    (le : (Precedence.ofKind kind).rank ≤ level.rank)
    (below : (Precedence.ofKind kind).Below tighter) (binary : 0 < (Precedence.ofKind kind).rank) :
    Spells (cs ++ c :: ds) (.operation p (.ofSymbol kind c) q)
      (.binary (.ofSymbol kind c) (.ofList [c]) e f) where
  derives := (derivesP.operation derivesQ le below binary).to_sum
  tokens := by
    rw [bareTokens_append (isDelimiter_of_ofSymbol?_eq_some symbol), bareTokens_symbol symbol,
      first.tokens, second.tokens, Phrase.tokens]
  tree := by
    rw [Phrase.expr?, first.tree, second.tree]
    rfl

/-- Unaries are joined by every operator. -/
theorem join_unaries {c : Char} {kind : Token.Kind} (first : Spells cs p e)
    (second : Spells ds q f) (unaryP : p.Derives .sign) (unaryQ : q.Derives .sign)
    (symbol : Token.Kind.ofSymbol? c = some kind) (binary : 0 < (Precedence.ofKind kind).rank) :
    Spells (cs ++ c :: ds) (.operation p (.ofSymbol kind c) q)
      (.binary (.ofSymbol kind c) (.ofList [c]) e f) :=
  first.join second unaryP unaryQ symbol (Nat.le_succ_of_le (Precedence.ofKind_rank_le_two kind))
    (Precedence.below_sign _) binary

/-- Characters in parentheses with an operator between them spell the operation. -/
theorem operation {c : Char} {kind : Token.Kind} (first : Spells cs p e) (second : Spells ds q f)
    (symbol : Token.Kind.ofSymbol? c = some kind) (binary : 0 < (Precedence.ofKind kind).rank) :
    Spells ('(' :: (cs ++ ')' :: c :: '(' :: (ds ++ [')'])))
      (.operation p.grouped (.ofSymbol kind c) q.grouped)
      (.binary (.ofSymbol kind c) (.ofList [c]) e f) := by
  have joined := first.grouped.join_unaries second.grouped first.derives_grouped
    second.derives_grouped symbol binary
  simpa using joined

/-- A minus sign before characters that spell a unary spells the negation. -/
theorem negation (h : Spells cs p e) (unary : p.Derives .sign) :
    Spells ('-' :: cs) (.negation (.ofSymbol .minus '-') p)
      (.unary (.ofSymbol .minus '-') "-" e) where
  derives := (Phrase.Derives.negation rfl unary).to_sum
  tokens := by
    have minus : Token.Kind.ofSymbol? '-' = some .minus := rfl
    rw [bareTokens_symbol minus, h.tokens, Phrase.tokens]
  tree := by
    rw [Phrase.expr?, h.tree]
    rfl

/-! ## Spelling and reading -/

theorem clean (h : Spells cs p e) : p.faults = [] := by
  rw [← p.isSome_expr?_iff, h.tree]
  rfl

theorem isLine (h : Spells cs p e) : IsLine [p] :=
  IsLine.nil.cons h.derives (Nat.le_refl 0)

theorem bareTokens_eq_flatMap (h : Spells cs p e) : bareTokens cs = [p].flatMap Phrase.tokens := by
  rw [h.tokens, List.flatMap_cons, List.flatMap_nil, List.append_nil]

/-- Characters that spell a phrase within the levels are read as its tree. -/
theorem bareReading (h : Spells cs p e) (enough : p.need ≤ depthLimit) :
    Climb.line .bareMark depthLimit (bareTokens cs) = ⟨[e], [], false⟩ := by
  rw [h.bareTokens_eq_flatMap, line_eq_of_isLine _ h.isLine (by simpa using enough)]
  simp [h.tree, h.clean]

/-- A text that spells a phrase within the levels is read as its tree, without a fault. -/
theorem line_eq {source : String} (h : Spells source.toList p e) (enough : p.need ≤ depthLimit) :
    (Parser.ofString source).line.2.faults = [] ∧
      ∃ read, (Parser.ofString source).line.1 = [read] ∧ read.bare = e := by
  have bare := (Parser.reading_relocate_bare source).trans (h.bareReading enough)
  have faults : (Parser.reading source).faults.map Fault.bare = [] :=
    congrArg Reading.faults bare
  have exprs : (Parser.reading source).exprs.map Expr.bare = [e] :=
    congrArg Reading.exprs bare
  exact ⟨List.map_eq_nil_iff.1 faults, List.map_eq_singleton_iff.1 exprs⟩

/-- A text that spells a phrase beyond the levels is read as no tree, and is told to be nested too
deeply and nothing else. -/
theorem line_tooDeep {source : String} (h : Spells source.toList p e)
    (lacks : depthLimit < p.need) :
    (Parser.ofString source).line.1 = [] ∧
      ∃ place, (Parser.ofString source).line.2.faults = [⟨.tooDeep, place⟩] := by
  have eof : Token.bareMark.kind = .eof := rfl
  obtain ⟨bare, given⟩ := line_tooDeep_of_isLine eof h.isLine (by simpa using h.clean)
    ⟨p, List.mem_cons_self, lacks⟩
  rw [← h.bareTokens_eq_flatMap, ← Parser.reading_relocate_bare] at given
  have exprs : (Parser.reading source).exprs.map Expr.bare = [] := by
    rw [List.takeWhile_cons_of_neg (by simpa using lacks)] at given
    exact congrArg Reading.exprs given
  have faults : (Parser.reading source).faults.map Fault.bare = [⟨.tooDeep, bare⟩] :=
    congrArg Reading.faults given
  obtain ⟨fault, single, same⟩ := List.map_eq_singleton_iff.1 faults
  have cause : fault.cause = .tooDeep := congrArg Fault.cause same
  refine ⟨List.map_eq_nil_iff.1 exprs, fault.span, ?_⟩
  rw [← cause]
  exact single

end Spells

theorem Climb.Reading.verdict_of_faults {r : Reading} (h : r.faults ≠ []) :
    r.verdict = .error r.faults := by
  rw [Reading.verdict, if_pos h]

theorem Climb.Reading.verdict_eq_ok_some_iff {r : Reading} {answer : Answer} :
    r.verdict = .ok (some answer) ↔ r.faults = [] ∧ ∃ e, r.exprs = [e] ∧ e.eval = answer := by
  constructor
  · intro h
    unfold Reading.verdict at h
    split at h
    · cases h
    next clean =>
      refine ⟨Classical.not_not.1 clean, ?_⟩
      split at h
      · cases h
      next e exprs =>
        cases h
        exact ⟨e, exprs, rfl⟩
      · cases h
  · rintro ⟨clean, e, exprs, rfl⟩
    simp [Reading.verdict, clean, exprs]

/-- A text that has an answer spells a phrase, and the answer is the value of its tree. -/
theorem exists_spells_of_interpret {source : String} {answer : Answer}
    (h : interpret source = .ok (some answer)) :
    ∃ p e, Spells source.toList p e ∧ e.eval = answer := by
  have bare := mapError_bare_interpret source
  rw [h] at bare
  obtain ⟨clean, e, exprs, value⟩ := Reading.verdict_eq_ok_some_iff.1 bare.symm
  obtain ⟨ps, isLine, tokens, good⟩ := exists_isLine_of_faults_eq_nil rfl depthLimit _ clean
  rw [tokens, line_eq_of_isLine _ isLine fun p hp => (good p hp).2] at exprs
  have trees := Parser.map_some_filterMap_expr? fun p hp => (good p hp).1
  simp only at exprs
  rw [exprs] at trees
  obtain ⟨p, rfl, tree⟩ := List.map_eq_singleton_iff.1 trees.symm
  exact ⟨p, e, ⟨isLine.sums p List.mem_cons_self, by simpa using tokens, tree⟩, value⟩

end Abacus
