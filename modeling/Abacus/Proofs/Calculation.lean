import Abacus.Proofs.Composition
import Abacus.Proofs.Exactness
import Abacus.Proofs.Numeration
import Abacus.Proofs.Tiling

/-!
# Printed integers are computed with

An integer that is printed can be read again, alone or as an operand
(`interpret_printed`).

* The numeral of a natural number denotes the number, because it has no underscore
  and, unless it is a single zero, does not begin with one (`Decimal.denotes_nat`).
  So it is never taken for an octal literal.
* It is one token.  A negative integer is two, the first of them a minus sign, so
  it is a unary and binds tighter than every operator (`Phrase.ofInt`).
* A literal has no sign.  So the least integer, which has no opposite, is printed
  but not read: its numeral without the sign is told to be no literal.
-/

namespace Abacus

open Text Climb

/-! ## Decimal numerals -/

namespace Text.Decimal

theorem isDigit_digitChar : ∀ d < 10, Literal.IsDigit 10 d.digitChar d := by
  decide

/-- The characters of a numeral are digits. -/
theorem not_mem_toDigits {n : Nat} {c : Char} (other : c.isDigit = false) :
    c ∉ Nat.toDigits 10 n := by
  intro mem
  rw [Nat.isDigit_of_mem_toDigits (by decide) (by decide) mem] at other
  cases other

/-- No numeral but that of zero begins with a zero. -/
theorem head?_toDigits_ne_zero {n : Nat} (positive : 0 < n) :
    (Nat.toDigits 10 n).head? ≠ some '0' := by
  induction n using Nat.base_induction 10 (by decide) with
  | single d lt =>
    rw [Nat.toDigits_of_lt_base lt, List.head?_cons, ne_eq, Option.some.injEq,
      Nat.digitChar_eq_zero]
    exact Nat.ne_of_gt positive
  | digit n d lt more ih =>
    rw [← Nat.toDigits_append_toDigits (by decide) more lt,
      List.head?_append_of_ne_nil _ Nat.toDigits_ne_nil]
    exact ih more

/-- The digits of a numeral have its number as their value. -/
theorem exists_digits (n : Nat) :
    ∃ ds, List.Forall₂ (Literal.IsDigit 10) (Nat.toDigits 10 n) ds ∧
      Nat.ofDigits 10 ds.reverse = n := by
  induction n using Nat.base_induction 10 (by decide) with
  | single d lt =>
    rw [Nat.toDigits_of_lt_base lt]
    exact ⟨[d], .cons (isDigit_digitChar d lt) .nil, Nat.ofDigits_singleton⟩
  | digit n d lt more ih =>
    obtain ⟨ds, digits, value⟩ := ih
    rw [← Nat.toDigits_append_toDigits (by decide) more lt, Nat.toDigits_of_lt_base lt]
    refine ⟨ds ++ [d], List.rel_append digits (.cons (isDigit_digitChar d lt) .nil), ?_⟩
    rw [List.reverse_append, List.reverse_singleton, List.singleton_append, Nat.ofDigits_cons,
      value]
    exact Nat.add_comm d (10 * n)

/-- A numeral with a zero and something after it at its start is none. -/
theorem toDigits_ne_zero_cons {n : Nat} {c : Char} {cs : List Char} :
    Nat.toDigits 10 n ≠ '0' :: c :: cs := by
  intro chars
  cases n with
  | zero =>
    rw [Nat.toDigits_zero] at chars
    cases chars
  | succ n => exact head?_toDigits_ne_zero n.succ_pos (by rw [chars, List.head?_cons])

/-- The numeral of a number denotes the number. -/
theorem denotes_nat (n : Nat) : Literal.Denotes (nat n) n := by
  have chars : (nat n).toList = Nat.toDigits 10 n := String.toList_ofList
  have underscore : '_' ∉ Nat.toDigits 10 n := Nat.underscore_not_in_toDigits
  have all : (Nat.toDigits 10 n).filter (· ≠ '_') = Nat.toDigits 10 n := by
    rw [List.filter_eq_self]
    intro c mem
    simpa using fun same : c = '_' => underscore (same ▸ mem)
  have plain : Literal.Cut (nat n) 10 (nat n) := by
    refine .plain (Literal.unmarked_of_chars fun c cs zero => ?_) fun body parts => ?_
    · exact absurd (chars.symm.trans zero) toDigits_ne_zero_cons
    · have zero := congrArg String.toList parts
      rw [chars, String.toList_append] at zero
      cases rest : body.toList with
      | nil => exact String.toList_inj.1 rest
      | cons c cs => exact absurd (zero.trans (by rw [rest]; rfl)) toDigits_ne_zero_cons
  refine ⟨?_, ?_, ?_, ?_, 10, nat n, plain, ?_, ?_⟩
  · intro empty
    rw [← String.toList_inj, chars] at empty
    exact Nat.toDigits_ne_nil empty
  · rw [chars]
    exact fun first => underscore (List.mem_of_head? first)
  · rw [chars]
    exact fun last => underscore (List.mem_of_getLast? last)
  · rw [chars]
    exact fun doubled => underscore (doubled.subset List.mem_cons_self)
  · rw [chars, all]
    exact Nat.toDigits_ne_nil
  · rw [chars, all]
    exact exists_digits n

/-- Numerals are the literals of the numbers that fit. -/
theorem value?_nat (n : Nat) :
    Literal.value? (nat n) = if n < Literal.bound then some (.ofNat n) else none := by
  split
  next fits => exact Literal.value?_eq_some_iff_denotes.2 ⟨n, denotes_nat n, fits, rfl⟩
  next large =>
    rw [Option.eq_none_iff_forall_ne_some]
    intro v value
    obtain ⟨m, denotes, fits, -⟩ := Literal.value?_eq_some_iff_denotes.1 value
    rw [denotes.unique (denotes_nat n)] at fits
    exact large fits

end Text.Decimal

/-! ## The tokens of an integer -/

theorem isNumeral_of_isDigit {c : Char} (digit : c.isDigit = true) : isNumeral c = true := by
  rw [isNumeral, digit, Bool.true_or]

theorem isDigit_of_isBaseLetter {c : Char} (letter : isBaseLetter c = true) :
    c.isDigit = false := by
  simp only [isBaseLetter, List.mem_cons, List.not_mem_nil, or_false, decide_eq_true_eq] at letter
  rcases letter with rfl | rfl | rfl | rfl | rfl | rfl <;> rfl

theorem splitNumber_of_digits (first : Char) {cs : List Char}
    (digits : ∀ c ∈ cs, c.isDigit = true) : splitNumber first cs = (cs, []) := by
  cases cs with
  | nil => rfl
  | cons c cs =>
    have numerals : ∀ d ∈ c :: cs, isNumeral d = true := fun d mem =>
      isNumeral_of_isDigit (digits d mem)
    have unmarked : ¬ (first = '0' ∧ isBaseLetter c = true) := by
      rintro ⟨-, letter⟩
      have digit := digits c List.mem_cons_self
      rw [isDigit_of_isBaseLetter letter] at digit
      cases digit
    rw [splitNumber, if_neg unmarked, List.takeWhile_eq_self_iff.2 numerals,
      List.dropWhile_eq_nil_iff.2 numerals]

theorem ofSymbol?_of_isDigit {c : Char} (digit : c.isDigit = true) :
    Token.Kind.ofSymbol? c = none := by
  rw [Option.eq_none_iff_forall_ne_some]
  intro kind symbol
  have delimits : isWordChar c = false := isDelimiter_of_ofSymbol?_eq_some symbol
  rw [isWordChar_of_isNumeral (isNumeral_of_isDigit digit)] at delimits
  cases delimits

/-- The token of a numeral at an offset. -/
def Token.numeral (offset n : Nat) : Token :=
  ⟨.number, Decimal.nat n, ⟨offset, offset + byteLength (Nat.toDigits 10 n)⟩⟩

theorem Cursor.tokens_toDigits (offset n : Nat) :
    tokens ⟨offset, Nat.toDigits 10 n⟩ = [.numeral offset n] := by
  obtain ⟨first, cs, chars⟩ := List.exists_cons_of_ne_nil (@Nat.toDigits_ne_nil n 10)
  have digits : ∀ c ∈ first :: cs, c.isDigit = true := fun c mem =>
    Nat.isDigit_of_mem_toDigits (by decide) (by decide) (chars ▸ mem)
  have digit := digits first List.mem_cons_self
  have more := splitNumber_of_digits first fun c mem => digits c (List.mem_cons_of_mem first mem)
  have split : splitToken first cs = (.number, cs, []) := by
    rw [splitToken, ofSymbol?_of_isDigit digit, if_pos digit, more]
  have visible := isBlank_of_isWordChar (isWordChar_of_isNumeral (isNumeral_of_isDigit digit))
  rw [Token.numeral, Decimal.nat, chars, tokens_cons visible, readToken, split, tokens_nil]

/-- The token of a minus sign at an offset. -/
def Token.sign (offset : Nat) : Token :=
  ⟨.minus, "-", ⟨offset, offset + 1⟩⟩

/-- An integer as it is printed at an offset. -/
def Phrase.ofInt (offset : Nat) : Int → Phrase
  | .ofNat n => .number (.numeral offset n)
  | .negSucc n => .negation (.sign offset) (.number (.numeral (offset + 1) (n + 1)))

theorem Cursor.tokens_ofInt (offset : Nat) (i : Int) :
    tokens ⟨offset, Decimal.ofInt i⟩ = (Phrase.ofInt offset i).tokens := by
  cases i with
  | ofNat n => exact tokens_toDigits offset n
  | negSucc n =>
    have minus : Token.Kind.ofSymbol? '-' = some .minus := rfl
    rw [Decimal.ofInt, tokens_symbol minus]
    exact congrArg (_ :: ·) (tokens_toDigits (offset + 1) (n + 1))

namespace Phrase

section

variable (offset : Nat) (i : Int)

theorem ofInt_derives : (ofInt offset i).Derives .sign := by
  cases i with
  | ofNat n => exact .number rfl
  | negSucc n => exact .negation rfl (.number rfl)

theorem need_ofInt_le : (ofInt offset i).need ≤ 2 := by
  cases i with
  | ofNat n => exact Nat.le_succ 1
  | negSucc n => exact Nat.le_refl 2

end

/-- An integer of 64 bits but the least is the value of its phrase. -/
theorem exists_expr?_ofInt (offset : Nat) {a : Int64} (ne : a ≠ Int64.minValue) :
    ∃ e, (ofInt offset a.toInt).expr? = some e ∧ e.eval = .ok a := by
  obtain ⟨low, high⟩ := fits_toInt a
  cases value : a.toInt with
  | ofNat n =>
    have fits : n < Literal.bound := by
      rw [value, Int.ofNat_eq_natCast] at high
      exact_mod_cast high
    have same : Int64.ofNat n = a := by
      rw [← Int64.ofInt_toInt a, value]
      rfl
    refine ⟨.int (.numeral offset n) a, ?_, rfl⟩
    rw [ofInt, expr?, Token.numeral, Decimal.value?_nat, if_pos fits, same]
    rfl
  | negSucc n =>
    have least : a.toInt ≠ -2 ^ 63 := fun least => ne (Int64.toInt_inj.1 least)
    have fits : n + 1 < Literal.bound := by
      rw [value] at low least
      have power : Literal.bound = 2 ^ 63 := rfl
      omega
    have same : -Int64.ofNat (n + 1) = a := by
      rw [← Int64.ofInt_toInt a, value, Int.negSucc_eq, Int64.ofInt_neg]
      rfl
    refine ⟨.unary (.sign offset) "-" (.int (.numeral (offset + 1) (n + 1)) (.ofNat (n + 1))),
      ?_, ?_⟩
    · rw [ofInt, expr?, expr?, Token.numeral, Decimal.value?_nat, if_pos fits]
      rfl
    · rw [← same]
      rfl

/-- The least integer has no phrase with a tree. -/
theorem faults_ofInt_minValue (offset : Nat) : (ofInt offset Int64.minValue.toInt).faults =
    [⟨.badLiteral "9223372036854775808", ⟨offset + 1, offset + 20⟩⟩] := by
  have least : Int64.minValue.toInt = .negSucc (2 ^ 63 - 1) := rfl
  have numeral : Decimal.nat (2 ^ 63 - 1 + 1) = "9223372036854775808" := by decide +kernel
  have length : byteLength (Nat.toDigits 10 (2 ^ 63 - 1 + 1)) = 19 := by decide +kernel
  have large : Literal.value? (Decimal.nat (2 ^ 63 - 1 + 1)) = none := by
    rw [Decimal.value?_nat, if_neg (by decide)]
  rw [least, ofInt, faults, faults, Token.numeral, large, numeral, length]
  rfl

end Phrase

/-! ## Lines of one phrase -/

section

variable {source : String} {p : Phrase}

theorem Parser.reading_of_tokens_eq (tokens : (Cursor.ofString source).tokens = p.tokens)
    (derives : p.Derives .sum) (enough : p.need ≤ depthLimit) :
    Parser.reading source = ⟨[p].filterMap Phrase.expr?, p.faults, false⟩ := by
  have isLine : IsLine [p] := IsLine.nil.cons derives (Nat.le_refl 0)
  have read := line_eq_of_isLine (Cursor.ofString source).mark isLine (by simpa using enough)
  rw [Parser.reading, tokens]
  simpa using read

theorem interpret_of_expr? (tokens : (Cursor.ofString source).tokens = p.tokens)
    (derives : p.Derives .sum) (enough : p.need ≤ depthLimit) {e : Expr}
    (tree : p.expr? = some e) : interpret source = .ok (some e.eval) := by
  have clean : p.faults = [] := p.isSome_expr?_iff.1 (by rw [tree]; rfl)
  rw [interpret_eq_verdict, Parser.reading_of_tokens_eq tokens derives enough,
    Reading.verdict_eq_ok_some_iff]
  exact ⟨clean, e, List.filterMap_cons_some tree, rfl⟩

theorem interpret_of_faults (tokens : (Cursor.ofString source).tokens = p.tokens)
    (derives : p.Derives .sum) (enough : p.need ≤ depthLimit) (unclean : p.faults ≠ []) :
    interpret source = .error p.faults := by
  rw [interpret_eq_verdict, Parser.reading_of_tokens_eq tokens derives enough]
  exact Reading.verdict_of_faults unclean

end

/-! ## Operators -/

/-- The operators, each with what it makes of integers without a bound. -/
def operators : List (Char × (Int → Int → Int)) :=
  [('+', (· + ·)), ('-', (· - ·)), ('*', (· * ·)), ('/', Int.tdiv)]

/-- The operation of an operator wraps the result around, and fails if it divides by zero. -/
theorem exists_operation_of_mem_operators {c : Char} {f : Int → Int → Int}
    (mem : (c, f) ∈ operators) :
    ∃ operation, (c, operation) ∈ Answer.operations ∧ ∀ l r, operation l r =
      if c = '/' ∧ r = 0 then .error .divisionByZero else .ok (.ofInt (f l.toInt r.toInt)) := by
  simp only [operators, List.mem_cons, List.not_mem_nil, or_false, Prod.mk.injEq] at mem
  rcases mem with ⟨rfl, rfl⟩ | ⟨rfl, rfl⟩ | ⟨rfl, rfl⟩ | ⟨rfl, rfl⟩
  · refine ⟨fun l r => .ok (l + r), by simp [Answer.operations], fun l r => ?_⟩
    rw [if_neg (by simp), Int64.ofInt_add, Int64.ofInt_toInt, Int64.ofInt_toInt]
  · refine ⟨fun l r => .ok (l - r), by simp [Answer.operations], fun l r => ?_⟩
    rw [if_neg (by simp), Int64.ofInt_sub, Int64.ofInt_toInt, Int64.ofInt_toInt]
  · refine ⟨fun l r => .ok (l * r), by simp [Answer.operations], fun l r => ?_⟩
    rw [if_neg (by simp), Int64.ofInt_mul, Int64.ofInt_toInt, Int64.ofInt_toInt]
  · refine ⟨fun l r => if r = 0 then .error .divisionByZero else .ok (l / r),
      by simp [Answer.operations], fun l r => ?_⟩
    rw [(fits_toInt l).ofInt_tdiv (fits_toInt r), Int64.ofInt_toInt, Int64.ofInt_toInt]
    simp

/-- A symbol is one byte. -/
theorem utf8Size_of_ofSymbol? {c : Char} {kind : Token.Kind}
    (symbol : Token.Kind.ofSymbol? c = some kind) : c.utf8Size = 1 := by
  have mem := eq_of_ofSymbol?_eq_some symbol
  simp only [List.mem_cons, List.not_mem_nil, or_false] at mem
  rcases mem with rfl | rfl | rfl | rfl | rfl | rfl <;> rfl

/-! ## Calculations -/

/-- Two integers as they are printed, with blanks and an operator between them. -/
def calculation (a : Int64) (c : Char) (b : Int64) : String :=
  Answer.text (.ok a) ++ " " ++ .ofList [c] ++ " " ++ Answer.text (.ok b)

/-- The offset of the second integer of a calculation. -/
def secondOffset (a : Int64) : Nat :=
  byteLength (Decimal.ofInt a.toInt) + 3

/-- What is told of an integer that is printed at an offset. -/
def refused (offset : Nat) (a : Int64) : List Diagnostic :=
  if a = Int64.minValue then
    [⟨.syntactic, ⟨offset + 1, offset + 20⟩, "could not parse \"9223372036854775808\" as integer",
      some "integers must fit in 64 bits and use valid digits for their base"⟩]
  else []

theorem map_diagnostic_faults_ofInt (offset : Nat) (a : Int64) :
    (Phrase.ofInt offset a.toInt).faults.map Fault.diagnostic = refused offset a := by
  unfold refused
  split
  next least =>
    rw [least, Phrase.faults_ofInt_minValue]
    rfl
  next ne =>
    obtain ⟨e, tree, -⟩ := Phrase.exists_expr?_ofInt offset ne
    rw [(Phrase.isSome_expr?_iff _).1 (Option.isSome_of_eq_some tree), List.map_nil]

/-- The phrase of a calculation. -/
def Phrase.calculation (a : Int64) (kind : Token.Kind) (c : Char) (b : Int64) : Phrase :=
  let after := byteLength (Decimal.ofInt a.toInt)
  .operation (ofInt 0 a.toInt) ⟨kind, .ofList [c], ⟨after + 1, after + 2⟩⟩
    (ofInt (secondOffset a) b.toInt)

section

variable (a b : Int64) (c : Char) (kind : Token.Kind)

variable {c kind} in
theorem tokens_calculation (symbol : Token.Kind.ofSymbol? c = some kind) :
    (Cursor.ofString (calculation a c b)).tokens = (Phrase.calculation a kind c b).tokens := by
  have blank : isBlank ' ' = true := rfl
  have sizeBlank : ' '.utf8Size = 1 := rfl
  have sizeSymbol := utf8Size_of_ofSymbol? symbol
  have chars : (calculation a c b).toList =
      Decimal.ofInt a.toInt ++ ' ' :: c :: ' ' :: Decimal.ofInt b.toInt := by
    simp [calculation, Answer.text, Decimal.int]
  rw [Cursor.ofString, chars, Cursor.tokens_append (isDelimiter_of_isBlank blank),
    Cursor.tokens_ofInt, Cursor.tokens_blank blank, Cursor.tokens_symbol symbol,
    Cursor.tokens_blank blank, Cursor.tokens_ofInt]
  simp [Phrase.calculation, Phrase.tokens, secondOffset, sizeBlank, sizeSymbol]

variable {kind} in
/-- A printed integer is a unary, so every operator joins two of them. -/
theorem derives_calculation (binary : 0 < (Precedence.ofKind kind).rank) :
    (Phrase.calculation a kind c b).Derives .sum :=
  ((Phrase.ofInt_derives 0 a.toInt).operation (Phrase.ofInt_derives (secondOffset a) b.toInt)
    (Nat.le_succ_of_le (Precedence.ofKind_rank_le_two kind)) (Precedence.below_sign _)
    binary).to_sum

theorem need_calculation_le : (Phrase.calculation a kind c b).need ≤ depthLimit := by
  have first := Phrase.need_ofInt_le 0 a.toInt
  have second := Phrase.need_ofInt_le (secondOffset a) b.toInt
  have unary := (Phrase.ofInt_derives 0 a.toInt).folds_eq_zero
  have limit : depthLimit = 256 := rfl
  simp only [Phrase.calculation, Phrase.need]
  omega

theorem map_diagnostic_faults_calculation :
    (Phrase.calculation a kind c b).faults.map Fault.diagnostic =
      refused 0 a ++ refused (secondOffset a) b := by
  rw [Phrase.calculation, Phrase.faults, List.map_append, map_diagnostic_faults_ofInt,
    map_diagnostic_faults_ofInt]

/-- A calculation has the result of its operator for its value, if both integers can be read. -/
theorem exists_expr?_calculation (neA : a ≠ Int64.minValue) (neB : b ≠ Int64.minValue) :
    ∃ e, (Phrase.calculation a kind c b).expr? = some e ∧
      e.eval = Expr.applyBinary (.ofList [c]) a b := by
  obtain ⟨l, treeL, valueL⟩ := Phrase.exists_expr?_ofInt 0 neA
  obtain ⟨r, treeR, valueR⟩ := Phrase.exists_expr?_ofInt (secondOffset a) neB
  rw [Phrase.calculation, Phrase.expr?, treeL, treeR]
  exact ⟨_, rfl, Expr.eval_binary_of_ok _ _ valueL valueR⟩

theorem refused_eq_nil_iff (offset : Nat) : refused offset a = [] ↔ a ≠ Int64.minValue := by
  unfold refused
  split <;> simp_all

end

/-- Printed integers can be computed with.  Two of them with an operator between them have the
result of the operator for their answer, wrapped around, or the failure of a division by zero.  The
least integer is the exception: each time it stands there its numeral without the sign is told to
be no literal, and nothing else is told.  An integer alone has itself for its answer, if it is not
the least. -/
theorem interpret_printed (a b : Int64) :
    (∀ c f, (c, f) ∈ operators →
      (a ≠ Int64.minValue → b ≠ Int64.minValue →
        interpret (calculation a c b) = .ok (some
          (if c = '/' ∧ b = 0 then .error .divisionByZero
          else .ok (.ofInt (f a.toInt b.toInt))))) ∧
      (a = Int64.minValue ∨ b = Int64.minValue →
        (interpret (calculation a c b)).mapError (List.map Fault.diagnostic) =
          .error (refused 0 a ++ refused (secondOffset a) b))) ∧
    (a ≠ Int64.minValue → interpret (Answer.text (.ok a)) = .ok (some (.ok a))) := by
  refine ⟨fun c f mem => ?_, fun ne => ?_⟩
  · obtain ⟨operation, known, wraps⟩ := exists_operation_of_mem_operators mem
    obtain ⟨kind, symbol, binary, applies⟩ := applyBinary_of_mem_operations known
    have tokens := tokens_calculation a b symbol
    have derives := derives_calculation a b c binary
    have enough := need_calculation_le a b c kind
    refine ⟨fun neA neB => ?_, fun least => ?_⟩
    · obtain ⟨e, tree, value⟩ := exists_expr?_calculation a b c kind neA neB
      rw [interpret_of_expr? tokens derives enough tree, value, applies, wraps]
    · have told := map_diagnostic_faults_calculation a b c kind
      have unclean : (Phrase.calculation a kind c b).faults ≠ [] := by
        intro clean
        rw [clean, List.map_nil] at told
        obtain ⟨first, second⟩ := List.append_eq_nil_iff.1 told.symm
        rcases least with least | least
        · exact (refused_eq_nil_iff a 0).1 first least
        · exact (refused_eq_nil_iff b (secondOffset a)).1 second least
      rw [interpret_of_faults tokens derives enough unclean, ← told]
      rfl
  · obtain ⟨e, tree, value⟩ := Phrase.exists_expr?_ofInt 0 ne
    have tokens : (Cursor.ofString (Answer.text (.ok a))).tokens =
        (Phrase.ofInt 0 a.toInt).tokens := by
      rw [← Cursor.tokens_ofInt, Cursor.ofString, Answer.text, Decimal.int, String.toList_ofList]
    have enough := (Phrase.need_ofInt_le 0 a.toInt).trans (show 2 ≤ depthLimit by decide)
    rw [interpret_of_expr? tokens (Phrase.ofInt_derives 0 a.toInt).to_sum enough tree, value]

end Abacus
