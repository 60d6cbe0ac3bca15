import Abacus.Proofs.Spelling
import Abacus.Proofs.Tiling

/-!
# Canonical forms are read back

The canonical form of a tree spells a phrase of its own.  It puts a number for
each integer, and parentheses around each operator with its operands, so that
every operand is a unary and no precedence matters.  Its tokens are those of the
tree, because a number ends where an operator or a parenthesis comes.

The parentheses take levels that the text of the tree may not have taken.
`Expr.levels` counts them.  A tree that a text is read to is read back from its
canonical form if the levels suffice, and else the form is nested too deeply
(`render_reads_back`).
-/

namespace Abacus

/-! ## Trees of lexemes -/

/-- The tree is one that reading builds from lexemes. -/
inductive Expr.IsSpelled : Expr → Prop
  /-- An integer is the value of its literal. -/
  | int {t : Token} {value : Int64} : t.IsLexeme → t.kind = .number →
      Literal.value? t.text = some value → IsSpelled (.int t value)
  /-- The operator before an operand is a minus sign. -/
  | unary {t : Token} {operand : Expr} : t.IsLexeme → t.kind = .minus → IsSpelled operand →
      IsSpelled (.unary t t.text operand)
  /-- The operator between two operands is one that binds. -/
  | binary {t : Token} {left right : Expr} : t.IsLexeme →
      0 < (Precedence.ofKind t.kind).rank → IsSpelled left → IsSpelled right →
      IsSpelled (.binary t t.text left right)

/-- The tree of a phrase of lexemes is made of them. -/
theorem Phrase.Derives.isSpelled {level : Precedence} {p : Phrase} (h : p.Derives level)
    (lexemes : ∀ t ∈ p.tokens, t.IsLexeme) {e : Expr} (tree : p.expr? = some e) :
    e.IsSpelled := by
  induction h generalizing e with
  | @number t kind =>
    simp only [expr?, Option.map_eq_some_iff] at tree
    obtain ⟨value, literal, rfl⟩ := tree
    exact .int (lexemes t (List.mem_singleton_self t)) kind literal
  | @negation sign operand kind _ ih =>
    simp only [expr?, Option.map_eq_some_iff] at tree
    obtain ⟨inner, tree, rfl⟩ := tree
    exact .unary (lexemes sign List.mem_cons_self) kind
      (ih (fun t mem => lexemes t (List.mem_cons_of_mem sign mem)) tree)
  | @group opening closing inner _ _ _ ih =>
    exact ih (fun t mem => lexemes t (List.mem_cons_of_mem _ (List.mem_append_left _ mem))) tree
  | unary _ ih => exact ih lexemes tree
  | product _ ih => exact ih lexemes tree
  | @multiply left right operator _ kind _ ihl ihr | @add left right operator _ kind _ ihl ihr =>
    simp only [expr?, Option.bind_eq_some_iff, Option.map_eq_some_iff] at tree
    obtain ⟨l, treeL, r, treeR, rfl⟩ := tree
    have binds : 0 < (Precedence.ofKind operator.kind).rank := by
      rcases kind with kind | kind <;> rw [kind] <;> decide
    exact .binary (lexemes operator (List.mem_append_right _ List.mem_cons_self)) binds
      (ihl (fun t mem => lexemes t (List.mem_append_left _ mem)) treeL)
      (ihr (fun t mem => lexemes t (List.mem_append_right _ (List.mem_cons_of_mem _ mem))) treeR)

/-- The trees that a text is read to are made of lexemes. -/
theorem isSpelled_of_mem_line {source : String} {e : Expr}
    (mem : e ∈ (Parser.ofString source).line.1) : e.IsSpelled := by
  have eof : (Cursor.ofString source).mark.kind = .eof := rfl
  have tiles := Cursor.tokens_tiles 0 source.toList
  obtain ⟨p, ⟨derives, -, tree⟩, within⟩ := Climb.exists_phrase_of_mem_line eof mem
  exact derives.isSpelled (fun t inside => tiles.isLexeme t (within t inside)) tree

/-! ## The phrase of a canonical form -/

/-- The number of levels that the canonical form of a tree takes. -/
def Expr.levels : Expr → Nat
  | int _ _ => 1
  | unary _ _ operand => 2 + operand.levels
  | binary _ _ left right => 1 + max left.levels (2 + right.levels)

theorem ofSymbol?_eq_some_minus {c : Char} (h : Token.Kind.ofSymbol? c = some .minus) :
    c = '-' := by
  unfold Token.Kind.ofSymbol? at h
  split at h <;> simp_all

theorem Token.bare_eq_ofSymbol {t : Token} {c : Char} (text : t.text = .ofList [c]) :
    t.bare = .ofSymbol t.kind c := by
  cases t with
  | mk kind word span =>
    subst text
    rfl

/-- The canonical form of a tree of lexemes spells a unary with this tree. -/
theorem Expr.IsSpelled.spells {e : Expr} (h : e.IsSpelled) :
    ∃ p : Phrase, p.Derives .sign ∧ p.need = e.levels ∧ Spells e.render.toList p e.bare := by
  induction h with
  | @int t value lexeme kind literal =>
    have derives : (Phrase.number t.bare).Derives .sign := .number kind
    refine ⟨.number t.bare, derives, rfl, derives.to_sum, lexeme.bareTokens_eq, ?_⟩
    have same : Literal.value? t.bare.text = some value := literal
    rw [Phrase.expr?, same]
    rfl
  | @unary t operand lexeme kind _ ih =>
    obtain ⟨p, unary, need, spells⟩ := ih
    have binds : 0 < (Precedence.ofKind t.kind).rank := by
      rw [kind]
      decide
    obtain ⟨c, symbol, text⟩ := lexeme.exists_symbol binds
    rw [kind] at symbol
    cases ofSymbol?_eq_some_minus symbol
    have negated := spells.negation unary
    have token : t.bare = .ofSymbol .minus '-' := kind ▸ Token.bare_eq_ofSymbol text
    have chars : (Expr.unary t t.text operand).render.toList =
        '(' :: ('-' :: operand.render.toList ++ [')']) := by
      simp [render, text]
    have tree : (Expr.unary t t.text operand).bare =
        .unary (.ofSymbol .minus '-') "-" operand.bare := by
      rw [← token, ← show t.text = "-" from text]
      rfl
    refine ⟨_, negated.derives_grouped, ?_, ?_⟩
    · simp only [Phrase.grouped, Phrase.need, levels, need]
      omega
    · rw [chars, tree]
      exact negated.grouped
  | @binary t left right lexeme binds _ _ ihl ihr =>
    obtain ⟨p, unaryP, needP, spellsP⟩ := ihl
    obtain ⟨q, unaryQ, needQ, spellsQ⟩ := ihr
    obtain ⟨c, symbol, text⟩ := lexeme.exists_symbol binds
    have joined := spellsP.join_unaries spellsQ unaryP unaryQ symbol binds
    have token : t.bare = .ofSymbol t.kind c := Token.bare_eq_ofSymbol text
    have chars : (Expr.binary t t.text left right).render.toList =
        '(' :: (left.render.toList ++ c :: right.render.toList ++ [')']) := by
      simp [render, text]
    have tree : (Expr.binary t t.text left right).bare =
        .binary (.ofSymbol t.kind c) (.ofList [c]) left.bare right.bare := by
      rw [← token, ← text]
      rfl
    refine ⟨_, joined.derives_grouped, ?_, ?_⟩
    · simp only [Phrase.grouped, Phrase.need, levels, needP, needQ, unaryP.folds_eq_zero]
      omega
    · rw [chars, tree]
      exact joined.grouped

/-! ## Reading a canonical form -/

/-- A tree that a text is read to is read back from its canonical form, without a fault.  The tree
read back differs in places only.  If the form takes too many levels, it is read as no tree, and is
told to be nested too deeply and nothing else. -/
theorem Parser.render_reads_back {source : String} {e : Expr}
    (mem : e ∈ (Parser.ofString source).line.1) :
    (e.levels ≤ depthLimit ∧ (Parser.ofString e.render).line.2.faults = [] ∧
      ∃ again, (Parser.ofString e.render).line.1 = [again] ∧ again.bare = e.bare ∧
        again.render = e.render) ∨
    (depthLimit < e.levels ∧ (Parser.ofString e.render).line.1 = [] ∧
      ∃ place, (Parser.ofString e.render).line.2.faults = [⟨.tooDeep, place⟩]) := by
  obtain ⟨p, -, need, spells⟩ := (isSpelled_of_mem_line mem).spells
  rw [← need]
  rcases Nat.lt_or_ge depthLimit p.need with lacks | enough
  · exact .inr ⟨lacks, spells.line_tooDeep lacks⟩
  · obtain ⟨clean, again, read, same⟩ := spells.line_eq enough
    have rendered : again.render = e.render := by
      rw [← again.render_relocate fun _ => ⟨0, 0⟩, ← e.render_relocate fun _ => ⟨0, 0⟩]
      exact congrArg Expr.render same
    exact .inl ⟨enough, clean, again, read, same, rendered⟩

/-- A sum of a number and a product, beside an illegal character. -/
theorem Parser.render_reads_back_beside_fault :
    let negation : Expr := .unary ⟨.minus, "-", ⟨4, 5⟩⟩ "-" (.int ⟨.number, "0x1_0", ⟨5, 10⟩⟩ 16)
    let product : Expr :=
      .binary ⟨.times, "*", ⟨11, 12⟩⟩ "*" negation (.int ⟨.number, "3", ⟨13, 14⟩⟩ 3)
    let e : Expr := .binary ⟨.minus, "-", ⟨2, 3⟩⟩ "-" (.int ⟨.number, "7", ⟨0, 1⟩⟩ 7) product
    e ∈ (ofString "7 - -0x1_0 * 3 $").line.1 ∧
      (ofString "7 - -0x1_0 * 3 $").line.2.faults ≠ [] ∧ e.render = "(7-((-0x1_0)*3))" ∧
      (ofString e.render).line.2.faults = [] ∧
      ∃ again, (ofString e.render).line.1 = [again] ∧ again.bare = e.bare ∧
        again.render = e.render := by
  intro negation product e
  have mem : e ∈ (ofString "7 - -0x1_0 * 3 $").line.1 := by decide +kernel
  have enough : e.levels ≤ depthLimit := by decide +kernel
  refine ⟨mem, by decide +kernel, by decide +kernel, ?_⟩
  rcases render_reads_back mem with ⟨-, back⟩ | ⟨lacks, -⟩
  · exact back
  · exact absurd enough (Nat.not_le_of_lt lacks)

/-- A text may have the levels that the canonical form of its tree lacks. -/
example :
    (Parser.ofString (.ofList (List.replicate 128 '-' ++ ['1']))).line.1.map
      (decide <| depthLimit < ·.levels) = [true] := by
  decide +kernel

end Abacus
