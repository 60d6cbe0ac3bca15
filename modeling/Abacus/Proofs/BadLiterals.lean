import Abacus.Proofs.Accounting

/-!
# Bad literals are told once

A number of a line may be no literal.  That is told once, at the number, and
nothing else comes of it: the line is read as if the number were a literal, but
the expression that it is in has no tree (`Parser.bad_literals_told_once`).

The faults of a phrase are those of its *bad* numbers, and a phrase has a tree if
it has no bad number.  So what is left to show is which lines there is room for.
A line that some phrase of it takes too many levels for is given up, bad numbers
or not.
-/

namespace Abacus

open Climb

/-! ## Bad numbers -/

/-- Whether the token is a number and no literal. -/
def Token.isBad (t : Token) : Bool :=
  t.kind = .number ∧ Literal.value? t.text = none

/-- The fault of a number that is no literal. -/
def Token.badLiteral (t : Token) : Fault :=
  ⟨.badLiteral t.text, t.span⟩

theorem Token.isBad_of_ne_number {t : Token} (kind : t.kind ≠ .number) : t.isBad = false := by
  simp [isBad, kind]

/-- The faults of a phrase are those of its bad numbers, in order. -/
theorem Phrase.Derives.faults_eq {level : Precedence} {p : Phrase} (h : p.Derives level) :
    p.faults = (p.tokens.filter Token.isBad).map Token.badLiteral := by
  induction h with
  | @number t kind =>
    cases value : Literal.value? t.text with
    | none => simp [faults, tokens, Token.isBad, Token.badLiteral, kind, value]
    | some n => simp [faults, tokens, Token.isBad, value]
  | negation kind _ ih =>
    rw [faults, tokens, List.filter_cons_of_neg (by simp [Token.isBad, kind]), ih]
  | group first _ final ih =>
    rw [faults, tokens, List.filter_cons_of_neg (by simp [Token.isBad, first]), List.filter_append,
      List.filter_cons_of_neg (by simp [Token.isBad, final]), List.filter_nil, List.append_nil, ih]
  | unary _ ih => exact ih
  | product _ ih => exact ih
  | @multiply _ _ operator _ kind _ ihl ihr | @add _ _ operator _ kind _ ihl ihr =>
    have good : operator.isBad = false := by
      rcases kind with kind | kind <;> exact Token.isBad_of_ne_number (by simp [kind])
    rw [faults, tokens, List.filter_append, List.filter_cons_of_neg (by simp [good]),
      List.map_append, ihl, ihr]

/-- A phrase has a tree exactly if all its numbers are literals. -/
theorem Phrase.Derives.isSome_expr?_iff_literals {level : Precedence} {p : Phrase}
    (h : p.Derives level) : p.expr?.isSome ↔
      ∀ t ∈ p.tokens, t.kind = .number → (Literal.value? t.text).isSome := by
  rw [p.isSome_expr?_iff]
  exact ⟨h.isSome_value?, h.faults_eq_nil⟩

/-! ## Lines -/

/-- The faults of the phrases of a line are those of its bad numbers, in order. -/
theorem IsLine.flatMap_faults {ps : List Phrase} (h : IsLine ps) :
    ps.flatMap Phrase.faults =
      ((ps.flatMap Phrase.tokens).filter Token.isBad).map Token.badLiteral := by
  induction ps with
  | nil => rfl
  | cons p ps ih =>
    rw [List.flatMap_cons, List.flatMap_cons, List.filter_append, List.map_append, ← ih h.tail,
      (h.sums p List.mem_cons_self).faults_eq]

/-- The trees of a line are those of its phrases that have only literals for numbers. -/
theorem IsLine.map_some_trees {ps : List Phrase} (h : IsLine ps) :
    (ps.filterMap Phrase.expr?).map some =
      (ps.filter fun p => ∀ t ∈ p.tokens, t.kind = .number → (Literal.value? t.text).isSome).map
        Phrase.expr? := by
  induction ps with
  | nil => rfl
  | cons p ps ih =>
    have literals := (h.sums p List.mem_cons_self).isSome_expr?_iff_literals
    cases tree : p.expr? with
    | none =>
      rw [tree] at literals
      rw [List.filterMap_cons_none tree, List.filter_cons_of_neg (by simpa using literals)]
      exact ih h.tail
    | some e =>
      rw [tree] at literals
      rw [List.filterMap_cons_some tree, List.filter_cons_of_pos (by simpa using literals),
        List.map_cons, List.map_cons, tree, ih h.tail]

/-! ## Texts -/

namespace Parser

/-- The tokens of a text are those of a line, whatever its numbers are.  If no phrase of it takes
more levels than there are, which is exactly if the parser does not give up, then what the parser
tells is that each number that is no literal is none, in order and at their places.  The expressions
are the trees of the phrases without such a number. -/
theorem bad_literals_told_once {source : String} {ps : List Phrase} (isLine : IsLine ps)
    (tokens : (Cursor.ofString source).tokens = ps.flatMap Phrase.tokens) :
    (Shallow ps ↔ ∀ d ∈ told source, d.message ≠ "expression nested too deeply") ∧
    (Shallow ps →
      told source = ((Cursor.ofString source).scan.filter
          fun t => t.kind = .number ∧ Literal.value? t.text = none).map
        (fun t => ⟨.syntactic, t.span, "could not parse \"" ++ t.text ++ "\" as integer",
          some "integers must fit in 64 bits and use valid digits for their base"⟩) ∧
      (ofString source).line.1.map some = (ps.filter
          fun p => ∀ t ∈ p.tokens, t.kind = .number → (Literal.value? t.text).isSome).map
        Phrase.expr?) := by
  have eof : (Cursor.ofString source).mark.kind = .eof := rfl
  have read (shallow : Shallow ps) : reading source =
      ⟨ps.filterMap Phrase.expr?,
        ((Cursor.ofString source).tokens.filter Token.isBad).map Token.badLiteral, false⟩ := by
    rw [reading, tokens, line_eq_of_isLine _ isLine shallow, isLine.flatMap_faults]
  refine ⟨⟨?_, ?_⟩, ?_⟩
  · intro shallow d mem message
    obtain ⟨f, inside, cause⟩ := gaveUp_iff.2 ⟨d, mem, message⟩
    rw [read shallow] at inside
    obtain ⟨t, -, rfl⟩ := List.mem_map.1 inside
    cases cause
  · intro going p mem
    refine Nat.le_of_not_lt fun lacks => ?_
    obtain ⟨fs, place, -, cut⟩ := line_cutShort_of_isLine eof isLine ⟨p, mem, lacks⟩
    have gaveUp : GaveUp (reading source).faults := by
      rw [reading, tokens, cut]
      exact ⟨_, List.mem_append_right fs (List.mem_singleton_self _), rfl⟩
    obtain ⟨d, inside, message⟩ := gaveUp_iff.1 gaveUp
    exact going d inside message
  · intro shallow
    constructor
    · have mark : (Cursor.ofString source).mark.isBad = false := rfl
      have bad : (Cursor.ofString source).scan.filter Token.isBad =
          (Cursor.ofString source).tokens.filter Token.isBad := by
        rw [Cursor.scan, List.filter_append, List.filter_cons_of_neg (by simp [mark]),
          List.filter_nil, List.append_nil]
      rw [told, line_ofString_faults, read shallow, ← bad, List.map_map]
      rfl
    · rw [line_ofString_exprs, read shallow]
      exact isLine.map_some_trees

/-- A bad literal under a sign and before an operator, a number, and a group with another one. -/
theorem bad_literals_told_once_around_number :
    let product : Phrase := .operation
      (.negation ⟨.minus, "-", ⟨0, 1⟩⟩ (.number ⟨.number, "08", ⟨1, 3⟩⟩)) ⟨.times, "*", ⟨3, 4⟩⟩
      (.number ⟨.number, "2", ⟨4, 5⟩⟩)
    let seven : Phrase := .number ⟨.number, "7", ⟨6, 7⟩⟩
    let quotient : Phrase := .group ⟨.opening, "(", ⟨8, 9⟩⟩
      (.operation (.number ⟨.number, "1", ⟨9, 10⟩⟩) ⟨.divide, "/", ⟨10, 11⟩⟩
        (.number ⟨.number, "0b2", ⟨11, 14⟩⟩)) ⟨.closing, ")", ⟨14, 15⟩⟩
    IsLine [product, seven, quotient] ∧
      (Cursor.ofString "-08*2 7 (1/0b2)").tokens =
        [product, seven, quotient].flatMap Phrase.tokens ∧
      Shallow [product, seven, quotient] ∧
      (told "-08*2 7 (1/0b2)").map (fun d => (d.message, d.span)) =
        [("could not parse \"08\" as integer", ⟨1, 3⟩),
          ("could not parse \"0b2\" as integer", ⟨11, 14⟩)] ∧
      (ofString "-08*2 7 (1/0b2)").line.1.map some = [seven.expr?] := by
  intro product seven quotient
  have isLine : IsLine [product, seven, quotient] := by
    refine ⟨?_, ?_⟩
    · intro p mem
      simp only [List.mem_cons, List.not_mem_nil, or_false] at mem
      rcases mem with rfl | rfl | rfl
      · exact .product (.multiply (.unary (.negation rfl (.number rfl))) (.inl rfl) (.number rfl))
      · exact .product (.unary (.number rfl))
      · exact .product (.unary (.group rfl
          (.product (.multiply (.unary (.number rfl)) (.inr rfl) (.number rfl))) rfl))
    · intro p mem
      simp only [List.tail_cons, List.mem_cons, List.not_mem_nil, or_false] at mem
      rcases mem with rfl | rfl <;> decide
  have tokens : (Cursor.ofString "-08*2 7 (1/0b2)").tokens =
      [product, seven, quotient].flatMap Phrase.tokens := by
    decide +kernel
  have shallow : Shallow [product, seven, quotient] := by
    intro p mem
    simp only [List.mem_cons, List.not_mem_nil, or_false] at mem
    rcases mem with rfl | rfl | rfl <;> decide
  obtain ⟨tells, trees⟩ := (bad_literals_told_once isLine tokens).2 shallow
  refine ⟨isLine, tokens, shallow, ?_, trees.trans (by decide +kernel)⟩
  rw [tells]
  decide +kernel

end Parser

end Abacus
