import Abacus.Expr.Climb

/-!
# The grammar of a line

A *phrase* is an expression as it is written: it keeps every token, those of the
parentheses included.  A phrase is a sum, a product or a unary, by the rules

* sum = product, or sum `+` product, or sum `-` product;
* product = unary, or product `*` unary, or product `/` unary;
* unary = number, or `-` unary, or `(` sum `)`.

A *line* is a list of sums, and none after the first begins with `-`: where an
expression has ended, a minus sign goes on with it.  The rules know nothing of
the reader of expressions, of its bounds and of its room.

*Trees.*  A phrase has a tree if all its numbers are literals (`expr?`), and
otherwise a fault for each number that is none (`faults`).

*Levels.*  The reader counts levels and gives back those of an operand when the
operand is read, but not those of the operators it folded.  `need` is the number
of levels that a phrase takes in this way: one for the first operand and what is
in it, and as many for the operator in place `i` as `i` and its right operand
take together.
-/

namespace Abacus

/-- An expression as it is written. -/
inductive Phrase
  /-- A number. -/
  | number (t : Token)
  /-- A sign and its operand. -/
  | negation (sign : Token) (operand : Phrase)
  /-- An expression in parentheses. -/
  | group (opening : Token) (inner : Phrase) (closing : Token)
  /-- An operator between its operands. -/
  | operation (left : Phrase) (operator : Token) (right : Phrase)
deriving DecidableEq, Repr

namespace Phrase

/-! ## What a phrase is made of -/

/-- The tokens of the phrase. -/
def tokens : Phrase → List Token
  | number t => [t]
  | negation sign operand => sign :: operand.tokens
  | group opening inner closing => opening :: (inner.tokens ++ [closing])
  | operation left operator right => left.tokens ++ operator :: right.tokens

/-- The first token of the phrase. -/
def head : Phrase → Token
  | number t => t
  | negation sign _ => sign
  | group opening _ _ => opening
  | operation left _ _ => left.head

/-- The last token of the phrase. -/
def last : Phrase → Token
  | number t => t
  | negation _ operand => operand.last
  | group _ _ closing => closing
  | operation _ _ right => right.last

theorem exists_tokens_eq_cons : ∀ p : Phrase, ∃ ts, p.tokens = p.head :: ts
  | number _ => ⟨[], rfl⟩
  | negation _ operand => ⟨operand.tokens, rfl⟩
  | group _ inner closing => ⟨inner.tokens ++ [closing], rfl⟩
  | operation left operator right => by
    obtain ⟨ts, h⟩ := exists_tokens_eq_cons left
    exact ⟨ts ++ operator :: right.tokens, by rw [tokens, h, List.cons_append, head]⟩

/-- The tree of the phrase, if all its numbers are literals. -/
def expr? : Phrase → Option Expr
  | number t => (Literal.value? t.text).map (.int t)
  | negation sign operand => operand.expr?.map (.unary sign sign.text)
  | group _ inner _ => inner.expr?
  | operation left operator right =>
    left.expr?.bind fun l => right.expr?.map fun r => .binary operator operator.text l r

/-- The faults of the numbers of the phrase that are no literals. -/
def faults : Phrase → List Fault
  | number t => if (Literal.value? t.text).isSome then [] else [⟨.badLiteral t.text, t.span⟩]
  | negation _ operand => operand.faults
  | group _ inner _ => inner.faults
  | operation left _ right => left.faults ++ right.faults

/-- A phrase has a tree exactly when it has no fault. -/
theorem isSome_expr?_iff (p : Phrase) : p.expr?.isSome ↔ p.faults = [] := by
  induction p with
  | number t =>
    cases h : Literal.value? t.text with
    | none => simp [expr?, faults, h]
    | some value => simp [expr?, faults, h]
  | negation sign operand ih => simpa [expr?, faults] using ih
  | group opening inner closing ih => simpa [expr?, faults] using ih
  | operation left operator right ihl ihr =>
    rw [faults, List.append_eq_nil_iff, ← ihl, ← ihr]
    cases hl : left.expr? with
    | none => simp [expr?, hl]
    | some l => simp [expr?, hl]

theorem expr?_eq_none_iff (p : Phrase) : p.expr? = none ↔ p.faults ≠ [] := by
  rw [← Option.not_isSome_iff_eq_none, isSome_expr?_iff]

/-! ## Levels -/

/-- The number of operators that the phrase has outside its operands. -/
def folds : Phrase → Nat
  | operation left _ _ => left.folds + 1
  | _ => 0

/-- The number of levels that the phrase takes. -/
def need : Phrase → Nat
  | number _ => 1
  | negation _ operand => 1 + operand.need
  | group _ inner _ => 1 + inner.need
  | operation left _ right => max left.need (1 + (left.folds + 1 + right.need))

theorem need_left_le (left : Phrase) (operator : Token) (right : Phrase) :
    left.need ≤ (operation left operator right).need :=
  Nat.le_max_left ..

/-! ## The rules -/

/-- The rules for phrases.  `sign` is the level of unaries. -/
inductive Derives : Precedence → Phrase → Prop
  /-- A number is a unary. -/
  | number {t : Token} : t.kind = .number → Derives .sign (number t)
  /-- A minus sign before a unary is a unary. -/
  | negation {sign : Token} {operand : Phrase} : sign.kind = .minus → Derives .sign operand →
      Derives .sign (negation sign operand)
  /-- A sum in parentheses is a unary. -/
  | group {opening closing : Token} {inner : Phrase} : opening.kind = .opening →
      Derives .sum inner → closing.kind = .closing → Derives .sign (group opening inner closing)
  /-- A unary is a product. -/
  | unary {p : Phrase} : Derives .sign p → Derives .product p
  /-- A product times or over a unary is a product. -/
  | multiply {left right : Phrase} {operator : Token} : Derives .product left →
      operator.kind = .times ∨ operator.kind = .divide → Derives .sign right →
      Derives .product (operation left operator right)
  /-- A product is a sum. -/
  | product {p : Phrase} : Derives .product p → Derives .sum p
  /-- A sum plus or minus a product is a sum. -/
  | add {left right : Phrase} {operator : Token} : Derives .sum left →
      operator.kind = .plus ∨ operator.kind = .minus → Derives .product right →
      Derives .sum (operation left operator right)

/-- A phrase begins with a number, a minus sign or a parenthesis. -/
theorem Derives.head_kind {level : Precedence} {p : Phrase} (h : p.Derives level) :
    p.head.kind = .number ∨ p.head.kind = .minus ∨ p.head.kind = .opening := by
  induction h with
  | number kind => exact .inl kind
  | negation kind => exact .inr (.inl kind)
  | group kind => exact .inr (.inr kind)
  | unary _ ih => exact ih
  | multiply _ _ _ ih => exact ih
  | product _ ih => exact ih
  | add _ _ _ ih => exact ih

/-- A unary has no operators outside its operands. -/
theorem Derives.folds_eq_zero {p : Phrase} (h : p.Derives .sign) : p.folds = 0 := by
  cases h <;> rfl

/-- A phrase whose numbers are all literals has no fault. -/
theorem Derives.faults_eq_nil {level : Precedence} {p : Phrase} (h : p.Derives level)
    (literals : ∀ t ∈ p.tokens, t.kind = .number → (Literal.value? t.text).isSome) :
    p.faults = [] := by
  induction h with
  | number kind => simp [faults, literals _ (List.mem_singleton_self _) kind]
  | negation _ _ ih => exact ih fun t ht => literals t (List.mem_cons_of_mem _ ht)
  | group _ _ _ ih =>
    exact ih fun t ht => literals t (List.mem_cons_of_mem _ (List.mem_append_left _ ht))
  | unary _ ih => exact ih literals
  | product _ ih => exact ih literals
  | multiply _ _ _ ihl ihr | add _ _ _ ihl ihr =>
    rw [faults, List.append_eq_nil_iff]
    exact ⟨ihl fun t ht => literals t (List.mem_append_left _ ht),
      ihr fun t ht => literals t (List.mem_append_right _ (List.mem_cons_of_mem _ ht))⟩

/-- All numbers of a phrase without a fault are literals. -/
theorem Derives.isSome_value? {level : Precedence} {p : Phrase} (h : p.Derives level)
    (clean : p.faults = []) :
    ∀ t ∈ p.tokens, t.kind = .number → (Literal.value? t.text).isSome := by
  induction h with
  | number kind =>
    intro t ht _
    cases List.mem_singleton.1 ht
    simpa [faults, Option.isSome_iff_ne_none] using clean
  | negation kind _ ih =>
    intro t ht number
    cases List.mem_cons.1 ht with
    | inl same => rw [same, kind] at number; cases number
    | inr ht => exact ih clean t ht number
  | group first _ final ih =>
    intro t ht number
    simp only [tokens, List.mem_cons, List.mem_append, List.not_mem_nil, or_false] at ht
    rcases ht with same | ht | same
    · rw [same, first] at number; cases number
    · exact ih clean t ht number
    · rw [same, final] at number; cases number
  | unary _ ih => exact ih clean
  | product _ ih => exact ih clean
  | multiply _ kind _ ihl ihr | add _ kind _ ihl ihr =>
    rw [faults, List.append_eq_nil_iff] at clean
    intro t ht number
    simp only [tokens, List.mem_append, List.mem_cons] at ht
    rcases ht with ht | same | ht
    · exact ihl clean.1 t ht number
    · rw [same] at number
      rcases kind with kind | kind <;> rw [kind] at number <;> cases number
    · exact ihr clean.2 t ht number

end Phrase

/-! ## Lines -/

/-- The rule for lines. -/
structure IsLine (ps : List Phrase) : Prop where
  /-- Every phrase is a sum. -/
  sums : ∀ p ∈ ps, p.Derives .sum
  /-- None after the first begins with a minus sign. -/
  unsigned : ∀ p ∈ ps.tail, p.head.kind ≠ .minus

theorem IsLine.nil : IsLine [] :=
  ⟨by simp, by simp⟩

theorem IsLine.tail {p : Phrase} {ps : List Phrase} (h : IsLine (p :: ps)) : IsLine ps :=
  ⟨fun q hq => h.sums q (List.mem_cons_of_mem p hq),
    fun q hq => h.unsigned q (List.mem_of_mem_tail hq)⟩

/-- Tokens are grammatical in the way of some phrases: they are the tokens of a line of these
phrases, and all numbers among them are literals. -/
structure Grammatical (ts : List Token) (ps : List Phrase) : Prop where
  /-- The phrases are a line. -/
  line : IsLine ps
  /-- The tokens are those of the phrases. -/
  tokens : ts = ps.flatMap Phrase.tokens
  /-- The numbers are literals. -/
  literals : ∀ t ∈ ts, t.kind = .number → (Literal.value? t.text).isSome

/-- No phrase takes more levels than there are. -/
def Shallow (ps : List Phrase) : Prop :=
  ∀ p ∈ ps, p.need ≤ depthLimit

/-- Phrases whose tokens are grammatical have no faults. -/
theorem Grammatical.faults_eq_nil {ts : List Token} {ps : List Phrase} (h : Grammatical ts ps) :
    ∀ p ∈ ps, p.faults = [] := by
  intro p hp
  refine (h.line.sums p hp).faults_eq_nil fun t ht => h.literals t ?_
  rw [h.tokens]
  exact List.mem_flatMap.2 ⟨p, hp, ht⟩

end Abacus
