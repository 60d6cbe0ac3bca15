import Abacus.Proofs.Calculation
import Abacus.Proofs.Coverage

/-!
# Tokens are told apart by their shapes

What kind a token is of can be seen from its characters alone, and a number takes
all the characters that it can (`Cursor.scan_shapes`).

A number has one of two *shapes*.  A plain number is a digit with digits and
underscores after it.  A based number is a zero, a letter that chooses the base, and
any letters, digits and underscores after that.  No text is of both shapes.

Which characters come after a token is not to be seen from the token.  So a token is
taken together with the place that it is read at: the characters before it, its first
one, its further ones, and those after it (`Token.ReadAt`).  Reading cuts all of these
at once, by one of four rules (`splitToken_cases`, `splitNumber_cases`), and each rule
says where it stops.
-/

namespace Abacus

open Text

/-! ## Shapes of numbers -/

/-- A number without a letter that chooses its base. -/
def IsPlainNumber (cs : List Char) : Prop :=
  ∃ first more, cs = first :: more ∧ first.isDigit = true ∧
    ∀ c ∈ more, c.isDigit = true ∨ c = '_'

/-- A number with a letter that chooses its base. -/
def IsBasedNumber (cs : List Char) : Prop :=
  ∃ letter more, cs = '0' :: letter :: more ∧ letter ∈ ['x', 'X', 'o', 'O', 'b', 'B'] ∧
    ∀ c ∈ more, c.isAlpha = true ∨ c.isDigit = true ∨ c = '_'

theorem isBaseLetter_iff {c : Char} :
    isBaseLetter c = true ↔ c ∈ ['x', 'X', 'o', 'O', 'b', 'B'] := by
  rw [isBaseLetter, decide_eq_true_eq]

theorem isNumeral_iff {c : Char} : isNumeral c = true ↔ c.isDigit = true ∨ c = '_' := by
  rw [isNumeral, Bool.or_eq_true, decide_eq_true_eq]

theorem isWordChar_iff {c : Char} :
    isWordChar c = true ↔ c.isAlpha = true ∨ c.isDigit = true ∨ c = '_' := by
  rw [isWordChar, Char.isAlphanum, Bool.or_eq_true, Bool.or_eq_true, decide_eq_true_eq, or_assoc]

theorem isNumeral_of_isBaseLetter {c : Char} (letter : isBaseLetter c = true) :
    isNumeral c = false := by
  rw [isBaseLetter_iff] at letter
  simp only [List.mem_cons, List.not_mem_nil, or_false] at letter
  rcases letter with rfl | rfl | rfl | rfl | rfl | rfl <;> rfl

/-- No text is of both shapes. -/
theorem IsBasedNumber.not_isPlainNumber {cs : List Char} (based : IsBasedNumber cs) :
    ¬ IsPlainNumber cs := by
  obtain ⟨letter, more, rfl, mem, -⟩ := based
  rintro ⟨first, further, parts, -, numerals⟩
  injection parts with _ parts
  have numeral := isNumeral_iff.2 (numerals letter (parts ▸ List.mem_cons_self))
  rw [isNumeral_of_isBaseLetter (isBaseLetter_iff.2 mem)] at numeral
  cases numeral

/-- A number of either shape begins with a digit. -/
theorem isDigit_of_isNumber {first : Char} {more : List Char}
    (number : IsPlainNumber (first :: more) ∨ IsBasedNumber (first :: more)) :
    first.isDigit = true := by
  rcases number with ⟨c, cs, parts, digit, -⟩ | ⟨letter, cs, parts, -, -⟩
  · injection parts with same
    rw [same]
    exact digit
  · injection parts with same
    rw [same]
    rfl

/-! ## The rules of reading -/

/-- A token is a symbol, a number or an illegal character, as its first character says. -/
theorem splitToken_cases {first : Char} {cs more rest : List Char} {kind : Token.Kind}
    (split : splitToken first cs = (kind, more, rest)) :
    (Token.Kind.ofSymbol? first = some kind ∧ more = []) ∨
    (first.isDigit = true ∧ kind = .number ∧ splitNumber first cs = (more, rest)) ∨
    (Token.Kind.ofSymbol? first = none ∧ first.isDigit = false ∧ kind = .illegal ∧ more = []) := by
  cases symbol : Token.Kind.ofSymbol? first with
  | some other =>
    rw [splitToken, symbol] at split
    cases split
    exact .inl ⟨rfl, rfl⟩
  | none =>
    cases digit : first.isDigit with
    | true =>
      simp only [splitToken, symbol, digit, if_true] at split
      injection split with same numbers
      exact .inr (.inl ⟨rfl, same.symm, numbers⟩)
    | false =>
      simp only [splitToken, symbol, digit, Bool.false_eq_true, if_false] at split
      cases split
      exact .inr (.inr ⟨rfl, rfl, rfl, rfl⟩)

/-- What a run of characters leaves does not go on with one of them. -/
theorem Text.head?_dropWhile_eq_some {p : Char → Bool} {cs : List Char} {c : Char}
    (head : (cs.dropWhile p).head? = some c) : p c = false := by
  have stops := List.head?_dropWhile_not p cs
  rw [head] at stops
  exact stops

/-- A number has one of the two shapes, and goes on through all the characters that it can. -/
theorem splitNumber_cases {first : Char} {more rest : List Char} (digit : first.isDigit = true)
    (split : splitNumber first (more ++ rest) = (more, rest)) :
    (IsBasedNumber (first :: more) ∧ ∀ c, rest.head? = some c → isWordChar c = false) ∨
    (IsPlainNumber (first :: more) ∧ ∀ c, rest.head? = some c →
      isNumeral c = false ∧ (first :: more = ['0'] → isBaseLetter c = false)) := by
  cases chars : more ++ rest with
  | nil =>
    obtain ⟨rfl, rfl⟩ := List.append_eq_nil_iff.1 chars
    exact .inr ⟨⟨first, [], rfl, digit, by simp⟩, by simp⟩
  | cons d ds =>
    rw [chars] at split
    by_cases based : first = '0' ∧ isBaseLetter d = true
    · rw [splitNumber, if_pos based] at split
      cases split
      refine .inl ⟨⟨d, _, by rw [based.1], isBaseLetter_iff.1 based.2, ?_⟩, ?_⟩
      · intro c mem
        exact isWordChar_iff.1 (List.mem_takeWhile_imp mem)
      · intro c head
        exact head?_dropWhile_eq_some head
    · rw [splitNumber, if_neg based] at split
      injection split with run left
      refine .inr ⟨⟨first, more, rfl, digit, ?_⟩, ?_⟩
      · intro c mem
        rw [← run] at mem
        exact isNumeral_iff.1 (List.mem_takeWhile_imp mem)
      · intro c head
        rw [← left] at head
        refine ⟨head?_dropWhile_eq_some head, ?_⟩
        intro zero
        injection zero with zero alone
        rw [left, ← List.nil_append rest, ← alone, chars] at head
        cases head
        exact Bool.eq_false_iff.2 fun letter => based ⟨zero, letter⟩

/-! ## Tokens at their places -/

/-- The token is read at a place of some characters: after `as`, from `first` and `more`, and
before `bs`. -/
structure Token.ReadAt (offset : Nat) (cs : List Char) (t : Token) (as : List Char) (first : Char)
    (more bs : List Char) : Prop where
  /-- These are the characters. -/
  parts : cs = (as ++ first :: more) ++ bs
  /-- No token begins with a blank. -/
  visible : isBlank first = false
  /-- The token is what is read there. -/
  split : splitToken first (more ++ bs) = (t.kind, more, bs)
  /-- The token is made of its characters. -/
  text : t.text.toList = first :: more
  /-- Its range begins after the characters before it. -/
  start : t.span.start = offset + byteLength as
  /-- Its range ends before the characters after it. -/
  stop : t.span.stop = offset + byteLength (as ++ first :: more)

/-- A character comes directly after the range of a token of a text. -/
def Token.IsFollowedBy (source : String) (t : Token) (c : Char) : Prop :=
  ∃ as bs, source.toList = as ++ c :: bs ∧ byteLength as = t.span.stop

theorem Cursor.exists_readAt_of_mem_tokens {offset : Nat} {cs : List Char} {t : Token}
    (mem : t ∈ tokens ⟨offset, cs⟩) : ∃ as first more bs, t.ReadAt offset cs as first more bs := by
  induction offset, cs using byTokens with
  | nil offset =>
    rw [tokens_nil] at mem
    cases mem
  | blank offset b cs blank ih =>
    rw [tokens_blank blank] at mem
    obtain ⟨as, first, more, bs, read⟩ := ih mem
    refine ⟨b :: as, first, more, bs, ?_, read.visible, read.split, read.text, ?_, ?_⟩
    · rw [read.parts, List.cons_append, List.cons_append]
    · rw [read.start, byteLength_cons, Nat.add_assoc]
    · rw [read.stop, List.cons_append, byteLength_cons, Nat.add_assoc]
  | token offset first cs visible ih =>
    rw [tokens_cons visible] at mem
    rcases List.mem_cons.1 mem with rfl | later
    · have parts := splitToken_append first cs
      refine ⟨[], first, (splitToken first cs).2.1, (splitToken first cs).2.2, ?_, visible, ?_,
        String.toList_ofList, rfl, rfl⟩
      · rw [List.nil_append, List.cons_append, parts]
      · rw [parts]
        rfl
    · obtain ⟨as, second, more, bs, read⟩ := ih later
      have before := readToken_text_append offset first cs
      have length : (readToken offset first cs).2.offset =
          offset + byteLength (readToken offset first cs).1.text.toList :=
        congrArg Span.stop (readToken_span offset first cs)
      refine ⟨(readToken offset first cs).1.text.toList ++ as, second, more, bs, ?_, read.visible,
        read.split, read.text, ?_, ?_⟩
      · rw [← before, read.parts, List.append_assoc, List.append_assoc, List.append_assoc]
      · rw [read.start, length, byteLength_append, Nat.add_assoc]
      · rw [read.stop, length, List.append_assoc, byteLength_append _ (as ++ second :: more),
          Nat.add_assoc]

namespace Token.ReadAt

variable {source : String} {t : Token} {as more bs : List Char} {first c : Char}

/-- What follows the range of a token is what comes after its characters. -/
theorem head?_eq (h : t.ReadAt 0 source.toList as first more bs)
    (follows : t.IsFollowedBy source c) : bs.head? = some c := by
  obtain ⟨before, after, parts, offset⟩ := follows
  rw [h.stop, Nat.zero_add] at offset
  have cut := append_inj_of_byteLength_eq (h.parts.symm.trans parts) offset.symm
  rw [cut.2, List.head?_cons]

/-- The first character of a token follows every token that ends where it begins. -/
theorem isFollowedBy (h : t.ReadAt 0 source.toList as first more bs) {u : Token}
    (touch : u.span.stop = t.span.start) : u.IsFollowedBy source first := by
  refine ⟨as, more ++ bs, ?_, ?_⟩
  · rw [h.parts, List.append_assoc, List.cons_append]
  · rw [touch, h.start, Nat.zero_add]

end Token.ReadAt

/-! ## Tokens of a text -/

/-- What the characters of a token, and the one after them, tell of its kind and of its extent. -/
structure Token.Shaped (source : String) (t : Token) : Prop where
  /-- It is a number exactly if it has one of the two shapes. -/
  number : t.kind = .number ↔ IsPlainNumber t.text.toList ∨ IsBasedNumber t.text.toList
  /-- No letter, digit or underscore follows a based number. -/
  based : IsBasedNumber t.text.toList → ∀ c, t.IsFollowedBy source c →
    ¬ (c.isAlpha = true ∨ c.isDigit = true ∨ c = '_')
  /-- No digit or underscore follows a plain number, and no letter for a base follows a lone
  zero. -/
  plain : IsPlainNumber t.text.toList → ∀ c, t.IsFollowedBy source c →
    ¬ (c.isDigit = true ∨ c = '_') ∧ (t.text = "0" → c ∉ ['x', 'X', 'o', 'O', 'b', 'B'])
  /-- An operator or a parenthesis is the character that it is called by. -/
  symbol : t.kind ∉ [.illegal, .eof, .number] → t.text = t.kind.name
  /-- An illegal token is one character, which begins no other token and is not blank. -/
  illegal : t.kind = .illegal → ∃ c, t.text = .ofList [c] ∧ c ∉ ['+', '-', '*', '/', '(', ')'] ∧
    isBlank c = false ∧ c.isDigit = false

theorem name_of_ofSymbol? {c : Char} {kind : Token.Kind}
    (symbol : Token.Kind.ofSymbol? c = some kind) :
    kind ∉ [.illegal, .eof, .number] ∧ .ofList [c] = kind.name := by
  unfold Token.Kind.ofSymbol? at symbol
  split at symbol <;> cases symbol <;> decide

theorem not_mem_of_ofSymbol?_eq_none {c : Char} (other : Token.Kind.ofSymbol? c = none) :
    c ∉ ['+', '-', '*', '/', '(', ')'] := by
  intro mem
  simp only [List.mem_cons, List.not_mem_nil, or_false] at mem
  rcases mem with rfl | rfl | rfl | rfl | rfl | rfl <;> cases other

namespace Token

variable {source : String} {t : Token}

/-- Of a token that is no number and has the shape of none, only the kind is left to be seen. -/
theorem shaped_of_ne_number (other : t.kind ≠ .number)
    (unshaped : ¬ (IsPlainNumber t.text.toList ∨ IsBasedNumber t.text.toList))
    (symbol : t.kind ∉ [.illegal, .eof, .number] → t.text = t.kind.name)
    (illegal : t.kind = .illegal → ∃ c, t.text = .ofList [c] ∧
      c ∉ ['+', '-', '*', '/', '(', ')'] ∧ isBlank c = false ∧ c.isDigit = false) :
    t.Shaped source where
  number := ⟨fun kind => absurd kind other, fun number => absurd number unshaped⟩
  based based := absurd (.inr based) unshaped
  plain plain := absurd (.inl plain) unshaped
  symbol := symbol
  illegal := illegal

/-- The end mark has no characters, so it has the shape of no number. -/
theorem shaped_mark (source : String) (length : Nat) : (mark length).Shaped source := by
  have proper : (mark length).kind ∈ [.illegal, .eof, .number] := by simp [mark]
  refine shaped_of_ne_number (by simp [mark]) ?_ (absurd proper) (fun illegal => by cases illegal)
  rintro (⟨first, more, parts, -⟩ | ⟨letter, more, parts, -⟩)
  · cases parts
  · cases parts

section

variable {as more bs : List Char} {first : Char}

theorem ReadAt.shaped_of_number (h : t.ReadAt 0 source.toList as first more bs)
    (kind : t.kind = .number) (digit : first.isDigit = true)
    (split : splitNumber first (more ++ bs) = (more, bs)) : t.Shaped source := by
  have proper : t.kind ∈ [.illegal, .eof, .number] := by simp [kind]
  have legal : t.kind ≠ .illegal := by simp [kind]
  rcases splitNumber_cases digit split with ⟨based, stops⟩ | ⟨plain, stops⟩
  · rw [← h.text] at based
    refine ⟨⟨fun _ => .inr based, fun _ => kind⟩, ?_, fun plain => ?_, absurd proper,
      fun illegal => absurd illegal legal⟩
    · intro _ c follows word
      rw [← isWordChar_iff, stops c (h.head?_eq follows)] at word
      cases word
    · exact absurd plain based.not_isPlainNumber
  · rw [← h.text] at plain
    refine ⟨⟨fun _ => .inl plain, fun _ => kind⟩, fun based => ?_, ?_, absurd proper,
      fun illegal => absurd illegal legal⟩
    · exact absurd plain based.not_isPlainNumber
    · intro _ c follows
      obtain ⟨other, unbased⟩ := stops c (h.head?_eq follows)
      constructor
      · rw [← isNumeral_iff, other]
        exact Bool.false_ne_true
      · intro zero letter
        rw [← isBaseLetter_iff, unbased (by rw [← h.text, zero]; rfl)] at letter
        cases letter

/-- A token is of the kind of its shape, wherever it is read. -/
theorem ReadAt.shaped (h : t.ReadAt 0 source.toList as first more bs) : t.Shaped source := by
  have digit (number : IsPlainNumber t.text.toList ∨ IsBasedNumber t.text.toList) :
      first.isDigit = true :=
    isDigit_of_isNumber (h.text ▸ number)
  have text (alone : more = []) : t.text = .ofList [first] := by
    rw [← String.toList_inj, h.text, alone, String.toList_ofList]
  rcases splitToken_cases h.split with
    ⟨symbol, alone⟩ | ⟨numeral, kind, split⟩ | ⟨other, odd, kind, alone⟩
  · obtain ⟨proper, name⟩ := name_of_ofSymbol? symbol
    refine shaped_of_ne_number (fun kind => proper (by simp [kind])) (fun number => ?_)
      (fun _ => (text alone).trans name) (fun kind => absurd (by simp [kind]) proper)
    rw [ofSymbol?_of_isDigit (digit number)] at symbol
    cases symbol
  · exact h.shaped_of_number kind numeral split
  · refine shaped_of_ne_number (by simp [kind]) (fun number => ?_)
      (fun proper => absurd (by simp [kind]) proper)
      (fun _ => ⟨first, text alone, not_mem_of_ofSymbol?_eq_none other, h.visible, odd⟩)
    rw [digit number] at odd
    cases odd

end

/-- No digit follows a number. -/
theorem Shaped.isDigit_eq_false (h : t.Shaped source) (kind : t.kind = .number) {c : Char}
    (follows : t.IsFollowedBy source c) : c.isDigit = false := by
  refine Bool.eq_false_iff.2 fun digit => ?_
  rcases h.number.1 kind with plain | based
  · exact (h.plain plain c follows).1 (.inl digit)
  · exact h.based based c follows (.inr (.inl digit))

end Token

namespace Cursor

theorem shaped_of_mem_scan {source : String} {t : Token} (mem : t ∈ (ofString source).scan) :
    t.Shaped source := by
  rcases List.mem_append.1 mem with token | last
  · obtain ⟨as, first, more, bs, read⟩ := exists_readAt_of_mem_tokens token
    exact read.shaped
  · cases List.mem_singleton.1 last
    exact Token.shaped_mark source _

/-- Every token of a text is of the kind of its shape, and a number takes all the characters that it
can.  So no number ends where another one begins. -/
theorem scan_shapes (source : String) :
    (∀ t ∈ (ofString source).scan, t.Shaped source) ∧
    ∀ t ∈ (ofString source).scan, ∀ u ∈ (ofString source).scan, t.kind = .number →
      u.kind = .number → t.span.stop ≠ u.span.start := by
  refine ⟨fun t mem => shaped_of_mem_scan mem, ?_⟩
  intro t memT u memU kindT kindU touch
  rcases List.mem_append.1 memU with token | last
  · obtain ⟨as, first, more, bs, read⟩ := exists_readAt_of_mem_tokens token
    have digit : first.isDigit = true :=
      isDigit_of_isNumber (read.text ▸ (shaped_of_mem_scan memU).number.1 kindU)
    have other := (shaped_of_mem_scan memT).isDigit_eq_false kindT (read.isFollowedBy touch)
    rw [digit] at other
    cases other
  · cases List.mem_singleton.1 last
    cases kindU

/-- After two zeros a letter for a base begins a token of its own. -/
theorem scan_shapes_beside_letter :
    let zeros : Token := ⟨.number, "00", ⟨0, 2⟩⟩
    let one : Token := ⟨.number, "1", ⟨3, 4⟩⟩
    zeros ∈ (ofString "00x1").scan ∧ one ∈ (ofString "00x1").scan ∧
      zeros.IsFollowedBy "00x1" 'x' ∧ zeros.Shaped "00x1" ∧ zeros.span.stop ≠ one.span.start := by
  intro zeros one
  have memZeros : zeros ∈ (ofString "00x1").scan := by decide +kernel
  have memOne : one ∈ (ofString "00x1").scan := by decide +kernel
  refine ⟨memZeros, memOne, ⟨['0', '0'], ['1'], by decide, by decide⟩, ?_, ?_⟩
  · exact (scan_shapes "00x1").1 zeros memZeros
  · exact (scan_shapes "00x1").2 zeros memZeros one memOne rfl rfl

end Cursor

end Abacus
