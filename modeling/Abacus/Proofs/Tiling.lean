import Abacus.Proofs.Scanning
import Mathlib.Data.List.TakeWhile

/-!
# Tokens tile a text

Between two tokens of a text there is nothing but blanks, and a token is cut out
where its range says.  This is the relation `Tiles`: it goes through characters
from an offset on, and either passes over a blank or takes all characters of the
next token.  Reading tokens gives a tiling (`tokens_tiles`).

A token of a tiling is a *lexeme*: alone, its characters are read as the token
again, and nothing of them is left.  All that is known about tokens by themselves
follows from this.  They are not empty, have no blank in them, are no end mark,
and an operator is one character.
-/

namespace Abacus

open Text

/-! ## Reading the characters of a token again -/

theorem Text.dropWhile_takeWhile (p : Char → Bool) (cs : List Char) :
    (cs.takeWhile p).dropWhile p = [] := by
  rw [List.dropWhile_eq_nil_iff]
  intro c mem
  exact List.mem_takeWhile_imp mem

theorem splitNumber_splitNumber (first : Char) (cs : List Char) :
    splitNumber first (splitNumber first cs).1 = ((splitNumber first cs).1, []) := by
  cases cs with
  | nil => rfl
  | cons c cs =>
    by_cases based : first = '0' ∧ isBaseLetter c
    · simp only [splitNumber, based, and_self, if_true, List.takeWhile_idem, dropWhile_takeWhile]
    · cases numeral : isNumeral c with
      | false => simp only [splitNumber, based, numeral, if_false, List.takeWhile_cons,
          Bool.false_eq_true]
      | true =>
        have takes : (c :: cs).takeWhile isNumeral = c :: cs.takeWhile isNumeral := by
          simp [numeral]
        rw [splitNumber, if_neg based, takes, splitNumber, if_neg based, ← takes,
          List.takeWhile_idem, dropWhile_takeWhile]

theorem splitToken_splitToken (first : Char) (cs : List Char) :
    splitToken first (splitToken first cs).2.1 =
      ((splitToken first cs).1, (splitToken first cs).2.1, []) := by
  unfold splitToken
  split
  · rfl
  · split
    · rw [splitNumber_splitNumber]
    · rfl

theorem isWordChar_of_isNumeral {c : Char} (h : isNumeral c = true) : isWordChar c = true := by
  simp only [isNumeral, Bool.or_eq_true] at h
  simp only [isWordChar, Char.isAlphanum, Bool.or_eq_true]
  rcases h with digit | underscore
  · exact .inl (.inr digit)
  · exact .inr underscore

theorem isWordChar_of_isBaseLetter {c : Char} (h : isBaseLetter c = true) :
    isWordChar c = true := by
  cases word : isWordChar c with
  | true => rfl
  | false =>
    rw [IsDelimiter.isBaseLetter word] at h
    exact absurd h Bool.false_ne_true

theorem isWordChar_of_mem_splitNumber {first c : Char} {cs : List Char}
    (mem : c ∈ (splitNumber first cs).1) : isWordChar c = true := by
  cases cs with
  | nil => cases mem
  | cons d cs =>
    rw [splitNumber] at mem
    split at mem
    next based =>
      rcases List.mem_cons.1 mem with rfl | later
      · exact isWordChar_of_isBaseLetter based.2
      · exact List.mem_takeWhile_imp later
    next => exact isWordChar_of_isNumeral (List.mem_takeWhile_imp mem)

/-- The characters of a token after its first one belong to a number. -/
theorem isWordChar_of_mem_splitToken {first c : Char} {cs : List Char}
    (mem : c ∈ (splitToken first cs).2.1) : isWordChar c = true := by
  unfold splitToken at mem
  split at mem
  · cases mem
  · split at mem
    · exact isWordChar_of_mem_splitNumber mem
    · cases mem

theorem isBlank_of_isWordChar {c : Char} (h : isWordChar c = true) : isBlank c = false := by
  cases blank : isBlank c with
  | false => rfl
  | true =>
    have delimits : isWordChar c = false := isDelimiter_of_isBlank blank
    rw [delimits] at h
    exact absurd h Bool.false_ne_true

theorem ofSymbol?_ne_eof (c : Char) : Token.Kind.ofSymbol? c ≠ some .eof := by
  unfold Token.Kind.ofSymbol?
  split <;> simp

theorem splitToken_kind_ne_eof (first : Char) (cs : List Char) :
    (splitToken first cs).1 ≠ .eof := by
  unfold splitToken
  split
  next kind symbol =>
    rintro rfl
    exact ofSymbol?_ne_eof first symbol
  next => split <;> simp

/-! ## Lexemes -/

/-- The token is what its own characters are read as. -/
def Token.IsLexeme (t : Token) : Prop :=
  ∃ first more, t.text.toList = first :: more ∧ isBlank first = false ∧
    splitToken first more = (t.kind, more, [])

namespace Token.IsLexeme

variable {t : Token}

theorem kind_ne_eof (h : t.IsLexeme) : t.kind ≠ .eof := by
  obtain ⟨first, more, -, -, split⟩ := h
  have kind : (splitToken first more).1 = t.kind := by rw [split]
  rw [← kind]
  exact splitToken_kind_ne_eof first more

theorem isBlank_eq_false (h : t.IsLexeme) : ∀ c ∈ t.text.toList, isBlank c = false := by
  obtain ⟨first, more, text, blank, split⟩ := h
  intro c mem
  rw [text] at mem
  rcases List.mem_cons.1 mem with rfl | later
  · exact blank
  · have inside : c ∈ (splitToken first more).2.1 := by
      rw [split]
      exact later
    exact isBlank_of_isWordChar (isWordChar_of_mem_splitToken inside)

/-- An operator is written as one character. -/
theorem exists_symbol (h : t.IsLexeme) (operator : 0 < (Precedence.ofKind t.kind).rank) :
    ∃ c, Token.Kind.ofSymbol? c = some t.kind ∧ t.text = .ofList [c] := by
  obtain ⟨first, more, text, -, split⟩ := h
  unfold splitToken at split
  split at split
  next kind symbol =>
    injection split with same rest
    injection rest with alone
    rw [← alone] at text
    refine ⟨first, by rw [symbol, same], ?_⟩
    rw [← text, String.ofList_toList]
  next =>
    exfalso
    split at split
    · injection split with same
      rw [← same] at operator
      exact absurd operator (Nat.lt_irrefl 0)
    · injection split with same
      rw [← same] at operator
      exact absurd operator (Nat.lt_irrefl 0)

/-- Reading the characters of a lexeme gives it back. -/
theorem bareTokens_eq (h : t.IsLexeme) : bareTokens t.text.toList = [t.bare] := by
  obtain ⟨first, more, text, blank, split⟩ := h
  have same : String.ofList (first :: more) = t.text := by
    rw [← text, String.ofList_toList]
  rw [text, bareTokens, Cursor.tokens_cons blank]
  simp only [Cursor.readToken, split, Cursor.tokens_nil, List.map_cons, List.map_nil, same]
  rfl

end Token.IsLexeme

/-! ## Tilings -/

/-- Some tokens tile the characters from an offset on. -/
inductive Tiles : Nat → List Char → List Token → Prop
  /-- Nothing is left. -/
  | done (offset : Nat) : Tiles offset [] []
  /-- A blank is passed over. -/
  | blank {offset : Nat} {b : Char} {cs : List Char} {ts : List Token} : isBlank b = true →
      Tiles (offset + b.utf8Size) cs ts → Tiles offset (b :: cs) ts
  /-- A token takes the next characters, and its range is theirs. -/
  | token {offset : Nat} {t : Token} {cs : List Char} {ts : List Token} : t.IsLexeme →
      t.span = ⟨offset, offset + byteLength t.text.toList⟩ → Tiles t.span.stop cs ts →
      Tiles offset (t.text.toList ++ cs) (t :: ts)

namespace Cursor

theorem readToken_isLexeme {first : Char} (h : isBlank first = false) (offset : Nat)
    (cs : List Char) : (readToken offset first cs).1.IsLexeme :=
  ⟨first, (splitToken first cs).2.1, String.toList_ofList, h, splitToken_splitToken first cs⟩

theorem readToken_text_append (offset : Nat) (first : Char) (cs : List Char) :
    (readToken offset first cs).1.text.toList ++ (readToken offset first cs).2.rest =
      first :: cs := by
  have text : (readToken offset first cs).1.text.toList = first :: (splitToken first cs).2.1 :=
    String.toList_ofList
  rw [text, List.cons_append]
  exact congrArg (first :: ·) (splitToken_append first cs)

theorem readToken_span (offset : Nat) (first : Char) (cs : List Char) :
    (readToken offset first cs).1.span =
      ⟨offset, offset + byteLength (readToken offset first cs).1.text.toList⟩ := by
  simp only [readToken, String.toList_ofList]

/-- The tokens of some characters tile them. -/
theorem tokens_tiles (offset : Nat) (cs : List Char) : Tiles offset cs (tokens ⟨offset, cs⟩) := by
  induction offset, cs using byTokens with
  | nil offset =>
    rw [tokens_nil]
    exact .done offset
  | blank offset b cs blank ih =>
    rw [tokens_blank blank]
    exact .blank blank ih
  | token offset first cs blank ih =>
    rw [tokens_cons blank, ← readToken_text_append offset first cs]
    exact .token (readToken_isLexeme blank offset cs) (readToken_span offset first cs) ih

end Cursor

namespace Tiles

variable {offset : Nat} {cs : List Char} {ts : List Token}

/-- A token of a tiling is a lexeme that is cut out of the characters where its range says. -/
theorem of_mem (h : Tiles offset cs ts) {t : Token} (mem : t ∈ ts) :
    t.IsLexeme ∧ ∃ as bs, cs = as ++ (t.text.toList ++ bs) ∧
      t.span = ⟨offset + byteLength as, offset + byteLength as + byteLength t.text.toList⟩ := by
  induction h with
  | done => cases mem
  | @blank offset b cs ts _ _ ih =>
    obtain ⟨lexeme, as, bs, rfl, span⟩ := ih mem
    refine ⟨lexeme, b :: as, bs, rfl, ?_⟩
    rw [span, byteLength_cons, Nat.add_assoc offset]
  | @token offset u cs ts lexeme span _ ih =>
    rcases List.mem_cons.1 mem with rfl | later
    · exact ⟨lexeme, [], cs, rfl, by rw [span]; rfl⟩
    · obtain ⟨lexeme', as, bs, rfl, span'⟩ := ih later
      refine ⟨lexeme', u.text.toList ++ as, bs, by rw [List.append_assoc], ?_⟩
      rw [span', span, byteLength_append, Nat.add_assoc offset]

theorem isLexeme (h : Tiles offset cs ts) : ∀ t ∈ ts, t.IsLexeme :=
  fun _ mem => (h.of_mem mem).1

theorem le_start (h : Tiles offset cs ts) {t : Token} (mem : t ∈ ts) : offset ≤ t.span.start := by
  obtain ⟨-, as, bs, -, span⟩ := h.of_mem mem
  rw [span]
  exact Nat.le_add_right offset _

/-- Each token of a tiling ends before the next begins. -/
theorem pairwise (h : Tiles offset cs ts) : ts.Pairwise fun t u => t.span.stop ≤ u.span.start := by
  induction h with
  | done => exact .nil
  | blank _ _ ih => exact ih
  | token _ _ tiles ih => exact .cons (fun u mem => tiles.le_start mem) ih

/-- Each character of a tiling is blank or in a token. -/
theorem isBlank_or_mem (h : Tiles offset cs ts) {as bs : List Char} {c : Char}
    (parts : cs = as ++ c :: bs) :
    isBlank c = true ∨ ∃ t ∈ ts, t.span.start ≤ offset + byteLength as ∧
      offset + byteLength as + c.utf8Size ≤ t.span.stop := by
  induction h generalizing as with
  | done => simp at parts
  | @blank offset b cs ts blank _ ih =>
    cases as with
    | nil =>
      injection parts with same
      rw [← same]
      exact .inl blank
    | cons a as =>
      injection parts with same parts
      rw [← same, byteLength_cons, ← Nat.add_assoc]
      exact ih parts
  | @token offset t cs ts _ span _ ih =>
    rcases List.append_eq_append_iff.1 parts with ⟨ds, rfl, rest⟩ | ⟨ds, text, rest⟩
    · rcases ih rest with blank | ⟨u, mem, low, high⟩
      · exact .inl blank
      · refine .inr ⟨u, List.mem_cons_of_mem t mem, ?_⟩
        rw [span] at low high
        rw [byteLength_append, ← Nat.add_assoc]
        exact ⟨low, high⟩
    · cases ds with
      | nil =>
        rw [List.append_nil] at text
        rcases @ih [] rest.symm with blank | ⟨u, mem, low, high⟩
        · exact .inl blank
        · refine .inr ⟨u, List.mem_cons_of_mem t mem, ?_⟩
          rw [span, text] at low high
          exact ⟨low, high⟩
      | cons d ds =>
        injection rest with same
        refine .inr ⟨t, List.mem_cons_self, ?_⟩
        rw [span, text, byteLength_append, byteLength_cons, same]
        constructor
        · exact Nat.le_add_right ..
        · simp only
          omega

end Tiles

end Abacus
