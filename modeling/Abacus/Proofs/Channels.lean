import Abacus.Proofs.Rendering

/-!
# The ways in which a text is answered

A text is answered in one of five ways, its *channels*.  It is blank, or its
faults are told, or it is told to hold too many expressions, or it has a value, or
its evaluation fails.  The ways exclude one another
(`interpret_by_one_channel`), which needs four things.

* The reader of expressions notes faults of syntax only, so that such a fault is
  not taken for one of usage (`syntactic_line`).
* Where it notes none and finds no expression either, there was no token, so that
  no text but a blank one goes unanswered (`exprs_line_eq_nil_iff`).
* The trees that it builds have the operators that evaluation knows, at every
  node, so that they fail at a division by zero or not at all
  (`Expr.IsSpelled.eval_settles`).
* The token of the root of a tree is one of those it was read from
  (`token_mem_of_mem_line`).
-/

namespace Abacus

open Climb

namespace Climb

/-! ## Faults of reading -/

/-- Reading an expression notes faults of syntax, step by step. -/
theorem syntactic_invariant (mark : Token) :
    Invariant mark (fun _ _ _ o => Every (·.kind = .syntactic) o.faults)
      (fun _ _ left o => Every (·.kind = .syntactic) left.faults →
        Every (·.kind = .syntactic) o.faults) where
  lacking _ _ := .singleton rfl
  missing _ _ := every_refuse (fun _ => rfl) (fun _ => rfl) mark []
  refused _ _ t ts _ := every_refuse (fun _ => rfl) (fun _ => rfl) t ts
  number _ _ t ts _ _ gone := gone (every_literal (fun _ => rfl) t ts)
  minus _ _ _ _ _ _ inner gone := gone inner
  opening _ _ _ _ _ _ inner gone := gone (inner.close (fun _ => rfl) mark)
  stop _ _ _ _ := fun left => left
  full _ _ _ _ _ _ := fun left => left.append (.singleton rfl)
  step _ _ _ _ _ _ _ _ right gone := fun left => gone (left.append right)

/-- Reading a line notes faults of syntax. -/
theorem syntactic_line (mark : Token) (room : Nat) (ts : List Token) :
    Every (·.kind = .syntactic) (line mark room ts).faults := by
  induction ts using line.induct mark room with
  | case1 =>
    rw [line]
    exact .nil
  | case2 t ts o ih =>
    rw [line]
    exact ((syntactic_invariant mark).expression room .lowest (t :: ts)).append ih

/-! ## Lines without expressions -/

/-- Where reading finds no fault and no expression, there is nothing to read. -/
theorem exprs_line_eq_nil_iff {mark : Token} (eof : mark.kind = .eof) {room : Nat}
    {ts : List Token} (clean : (line mark room ts).faults = []) :
    (line mark room ts).exprs = [] ↔ ts = [] := by
  constructor
  · intro empty
    obtain ⟨ps, isLine, rfl, good⟩ := exists_isLine_of_faults_eq_nil eof room ts clean
    rw [line_eq_of_isLine mark isLine fun p mem => (good p mem).2] at empty
    have trees := Parser.map_some_filterMap_expr? fun p mem => (good p mem).1
    simp only at empty
    rw [empty, List.map_nil] at trees
    rw [List.map_eq_nil_iff.1 trees.symm, List.flatMap_nil]
  · rintro rfl
    rw [line]

end Climb

/-- A text has no tokens exactly if it is blank. -/
theorem Cursor.tokens_ofString_eq_nil_iff (source : String) :
    (ofString source).tokens = [] ↔ ∀ c ∈ source.toList, Text.isBlank c = true := by
  rw [tokens]
  split
  next exhausted => simpa [skipBlanks, ofString] using exhausted
  next first rest visible =>
    have left : ¬ ∀ c ∈ source.toList, Text.isBlank c = true := by
      intro blank
      rw [← List.dropWhile_eq_nil_iff] at blank
      have same : (ofString source).skipBlanks.rest = [] := blank
      rw [visible] at same
      cases same
    simp [left]

/-! ## Trees that were read -/

/-- The token of the root of a phrase's tree is one of the phrase. -/
theorem Phrase.token_mem {p : Phrase} {e : Expr} (tree : p.expr? = some e) :
    e.token ∈ p.tokens := by
  induction p generalizing e with
  | number t =>
    obtain ⟨value, -, rfl⟩ := Option.map_eq_some_iff.1 tree
    exact List.mem_singleton_self t
  | negation sign operand ih =>
    obtain ⟨inner, -, rfl⟩ := Option.map_eq_some_iff.1 tree
    exact List.mem_cons_self
  | group opening inner closing ih =>
    exact List.mem_cons_of_mem _ (List.mem_append_left _ (ih tree))
  | operation left operator right ihl ihr =>
    obtain ⟨l, -, treeR⟩ := Option.bind_eq_some_iff.1 tree
    obtain ⟨r, -, rfl⟩ := Option.map_eq_some_iff.1 treeR
    exact List.mem_append_right _ List.mem_cons_self

/-- The token of the root of a tree that was read is one of the text. -/
theorem token_mem_of_mem_line {source : String} {e : Expr}
    (mem : e ∈ (Parser.ofString source).line.1) : e.token ∈ (Cursor.ofString source).tokens := by
  obtain ⟨p, ⟨-, -, tree⟩, within⟩ := exists_phrase_of_mem_line rfl mem
  exact within _ (Phrase.token_mem tree)

theorem mem_operators_of_ofSymbol? {c : Char} {kind : Token.Kind}
    (symbol : Token.Kind.ofSymbol? c = some kind) (binds : 0 < (Precedence.ofKind kind).rank) :
    String.ofList [c] ∈ ["+", "-", "*", "/"] := by
  unfold Token.Kind.ofSymbol? at symbol
  split at symbol
  · decide
  · decide
  · decide
  · decide
  · cases symbol
    exact absurd binds (Nat.lt_irrefl 0)
  · cases symbol
    exact absurd binds (Nat.lt_irrefl 0)
  · cases symbol

/-- An operator between two operands is one of the four. -/
theorem Token.IsLexeme.text_mem {t : Token} (h : t.IsLexeme)
    (binds : 0 < (Precedence.ofKind t.kind).rank) : t.text ∈ ["+", "-", "*", "/"] := by
  obtain ⟨c, symbol, text⟩ := h.exists_symbol binds
  rw [text]
  exact mem_operators_of_ofSymbol? symbol binds

namespace Expr

theorem applyBinary_settles {operator : String} (known : operator ∈ ["+", "-", "*", "/"])
    (l r : Int64) :
    (∃ value, applyBinary operator l r = .ok value) ∨
      applyBinary operator l r = .error .divisionByZero := by
  simp only [List.mem_cons, List.not_mem_nil, or_false] at known
  rcases known with rfl | rfl | rfl | rfl
  · exact .inl ⟨l + r, rfl⟩
  · exact .inl ⟨l - r, rfl⟩
  · exact .inl ⟨l * r, rfl⟩
  · by_cases zero : r = 0
    · rw [zero]
      exact .inr (applyBinary_divide_zero l)
    · exact .inl ⟨l / r, applyBinary_divide zero l⟩

/-- A tree of lexemes has a value or divides by zero. -/
theorem IsSpelled.eval_settles {e : Expr} (h : e.IsSpelled) :
    (∃ value, e.eval = .ok value) ∨ e.eval = .error .divisionByZero := by
  induction h with
  | @int t value => exact .inl ⟨value, rfl⟩
  | @unary t operand lexeme kind _ ih =>
    rcases ih with ⟨value, answer⟩ | answer
    · have binds : 0 < (Precedence.ofKind t.kind).rank := by
        rw [kind]
        decide
      obtain ⟨c, symbol, text⟩ := lexeme.exists_symbol binds
      rw [kind] at symbol
      cases ofSymbol?_eq_some_minus symbol
      rw [text, eval_unary_of_ok t _ answer]
      exact .inl ⟨-value, rfl⟩
    · exact .inr (eval_unary_of_error t t.text answer)
  | @binary t left right lexeme binds _ _ ihl ihr =>
    rcases ihl with ⟨l, answerL⟩ | answerL
    · rcases ihr with ⟨r, answerR⟩ | answerR
      · rw [eval_binary_of_ok t t.text answerL answerR]
        exact applyBinary_settles (lexeme.text_mem binds) l r
      · exact .inr (eval_binary_of_error_right t t.text answerL answerR)
    · exact .inr (eval_binary_of_error_left t t.text right answerL)

end Expr

/-! ## Channels -/

/-- The ways in which a text is answered. -/
inductive Channel
  | blank
  | faulty
  | surplus
  | value
  | failure
deriving DecidableEq, Repr

/-- The text is answered in a way. -/
inductive AnswersBy (source : String) : Channel → Prop
  /-- There is no answer. -/
  | blank : interpret source = .ok none → AnswersBy source .blank
  /-- The faults that the parser found are told, and they are errors of syntax. -/
  | faulty : interpret source = .error (Parser.ofString source).line.2.faults →
      (Parser.ofString source).line.2.faults ≠ [] →
      (∀ f ∈ (Parser.ofString source).line.2.faults, f.diagnostic.kind = .syntactic) →
      AnswersBy source .faulty
  /-- The parser found no fault and several expressions, and their number is told as an error of
  usage, at the token of the root of the second one. -/
  | surplus {fault : Fault} {second : Expr} : interpret source = .error [fault] →
      (Parser.ofString source).line.2.faults = [] →
      2 ≤ (Parser.ofString source).line.1.length →
      (Parser.ofString source).line.1[1]? = some second →
      fault.diagnostic.kind = .usage →
      fault.diagnostic.message = "expected a single expression, found " ++
        Text.Decimal.nat (Parser.ofString source).line.1.length →
      fault.diagnostic.span = second.token.span →
      second.token ∈ (Cursor.ofString source).tokens → AnswersBy source .surplus
  /-- The answer is an integer. -/
  | value {value : Int64} : interpret source = .ok (some (.ok value)) → AnswersBy source .value
  /-- The answer is a division by zero. -/
  | failure {error : EvalError} : interpret source = .ok (some (.error error)) →
      error.message = "Division by zero: INTEGER / INTEGER" → AnswersBy source .failure

/-- The way in which an answer comes. -/
def Channel.ofVerdict : Except (List Fault) (Option Answer) → Channel
  | .ok none => blank
  | .ok (some (.ok _)) => value
  | .ok (some (.error _)) => failure
  | .error fs => if fs.head?.map (·.cause.kind) = some .usage then surplus else faulty

/-- The answer alone tells the way in which a text is answered. -/
theorem AnswersBy.eq_ofVerdict {source : String} {way : Channel} (h : AnswersBy source way) :
    way = .ofVerdict (interpret source) := by
  cases h with
  | blank answer =>
    rw [answer]
    rfl
  | faulty answer faulty syntactic =>
    obtain ⟨f, fs, faults⟩ := List.exists_cons_of_ne_nil faulty
    have kind : f.cause.kind = .syntactic := syntactic f (by simp [faults])
    rw [answer, faults]
    simp [Channel.ofVerdict, kind]
  | @surplus fault second answer _ _ _ usage =>
    have kind : fault.cause.kind = .usage := usage
    rw [answer]
    simp [Channel.ofVerdict, kind]
  | value answer =>
    rw [answer]
    rfl
  | failure answer =>
    rw [answer]
    rfl

/-- A text is answered in some way. -/
theorem exists_answersBy (source : String) : ∃ way, AnswersBy source way := by
  have answer := interpret_eq_verdict source
  by_cases clean : (Parser.ofString source).line.2.faults = []
  · have sound : (Parser.reading source).faults = [] := clean
    cases exprs : (Parser.ofString source).line.1 with
    | nil =>
      have read : (Parser.reading source).exprs = [] := exprs
      exact ⟨.blank, .blank (by simp [answer, Reading.verdict, sound, read])⟩
    | cons first others =>
      cases others with
      | nil =>
        have read : (Parser.reading source).exprs = [first] := exprs
        have single : interpret source = .ok (some first.eval) := by
          simp [answer, Reading.verdict, sound, read]
        have mem : first ∈ (Parser.ofString source).line.1 := by simp [exprs]
        rcases (isSpelled_of_mem_line mem).eval_settles with ⟨value, settles⟩ | settles
        · exact ⟨.value, .value (single.trans (by rw [settles]))⟩
        · exact ⟨.failure, .failure (single.trans (by rw [settles])) rfl⟩
      | cons second more =>
        have read : (Parser.reading source).exprs = first :: second :: more := exprs
        have told : interpret source =
            .error [surplusFault (Parser.ofString source).line.1.length second] := by
          rw [exprs]
          simp [answer, Reading.verdict, sound, read]
        have mem : second ∈ (Parser.ofString source).line.1 := by simp [exprs]
        exact ⟨.surplus, .surplus told clean (by simp [exprs]) (by simp [exprs]) rfl rfl rfl
          (token_mem_of_mem_line mem)⟩
  · have faulty : (Parser.reading source).faults ≠ [] := clean
    exact ⟨.faulty, .faulty (answer.trans (Reading.verdict_of_faults faulty)) clean
      (syntactic_line _ depthLimit _)⟩

/-- There is no answer to a text exactly if it is blank. -/
theorem interpret_eq_ok_none_iff (source : String) :
    interpret source = .ok none ↔ ∀ c ∈ source.toList, Text.isBlank c = true := by
  rw [← Cursor.tokens_ofString_eq_nil_iff, interpret_eq_verdict]
  constructor
  · intro answer
    unfold Reading.verdict at answer
    split at answer
    · cases answer
    next clean =>
      have clean := Classical.not_not.1 clean
      split at answer
      next empty => exact (exprs_line_eq_nil_iff rfl clean).1 empty
      next => cases answer
      next => cases answer
  · intro empty
    rw [Parser.reading, empty, line]
    rfl

/-- A text is answered in exactly one way, and with nothing exactly if it is blank.  No expression
that is read from a text fails but by a division by zero. -/
theorem interpret_by_one_channel (source : String) :
    (∃! way, AnswersBy source way) ∧
    (AnswersBy source .blank ↔ ∀ c ∈ source.toList, Text.isBlank c = true) ∧
    ∀ e ∈ (Parser.ofString source).line.1, ∀ error, e.eval = .error error →
      error = .divisionByZero := by
  refine ⟨?_, ?_, ?_⟩
  · obtain ⟨way, answers⟩ := exists_answersBy source
    refine ⟨way, answers, ?_⟩
    intro other answers'
    rw [answers.eq_ofVerdict, answers'.eq_ofVerdict]
  · rw [← interpret_eq_ok_none_iff]
    constructor
    · rintro ⟨answer⟩
      exact answer
    · exact .blank
  · intro e mem error fails
    rcases (isSpelled_of_mem_line mem).eval_settles with ⟨value, settles⟩ | settles
    · rw [settles] at fails
      cases fails
    · rw [settles] at fails
      cases fails
      rfl

end Abacus
