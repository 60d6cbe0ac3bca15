import Abacus.Proofs.Layout

/-!
# How texts are cut into tokens

Tokens are read from the left, and what is read depends on the characters that
are left.  Three rules say all that is needed of it.

* Tokens read further on are the same tokens, further on (`tokens_shift`).
* A blank gives no token (`tokens_blank`), and a symbol gives its own
  (`tokens_symbol`).
* A character that no number goes on through is a *delimiter*.  What comes
  before it and what begins with it can be read apart (`tokens_append`).

Blanks and symbols are delimiters, so that texts put together with them are cut
where they were put together.  For bare tokens the rules do without offsets.

`byTokens` is the induction along the tokens of a text.
-/

namespace Abacus

open Text

/-! ## Delimiters -/

/-- Whether a character ends every number before it. -/
def IsDelimiter (c : Char) : Prop :=
  isWordChar c = false

theorem toNat_of_isWordChar {c : Char} (h : isWordChar c = true) :
    48 ≤ c.toNat ∧ c.toNat ≤ 122 := by
  have shape : isWordChar c = ((c.isUpper || c.isLower) || c.isDigit || c = '_') := rfl
  have upper : c.isUpper = decide ('A'.val ≤ c.val ∧ c.val ≤ 'Z'.val) := rfl
  have lower : c.isLower = (decide ('a'.val ≤ c.val) && decide (c.val ≤ 'z'.val)) := rfl
  have digit : c.isDigit = (decide ('0'.val ≤ c.val) && decide (c.val ≤ '9'.val)) := rfl
  simp only [shape, upper, lower, digit, Bool.or_eq_true, Bool.and_eq_true, decide_eq_true_eq,
    UInt32.le_iff_toNat_le, Char.toNat_val] at h
  rcases h with h | rfl
  · have zero : '0'.toNat = 48 := rfl
    have nine : '9'.toNat = 57 := rfl
    have upperA : 'A'.toNat = 65 := rfl
    have upperZ : 'Z'.toNat = 90 := rfl
    have lowerA : 'a'.toNat = 97 := rfl
    have lowerZ : 'z'.toNat = 122 := rfl
    omega
  · decide

theorem Text.toNat_of_isBlank {c : Char} (h : isBlank c = true) : c.toNat ≤ 32 ∨ 133 ≤ c.toNat := by
  obtain ⟨r, mem, low, high⟩ := isBlank_iff.1 h
  simp only [blankTable, List.mem_cons, List.not_mem_nil, or_false] at mem
  rcases mem with rfl | rfl | rfl | rfl | rfl | rfl | rfl | rfl | rfl | rfl <;>
    simp only at low high <;> omega

theorem isDelimiter_of_isBlank {c : Char} (h : isBlank c = true) : IsDelimiter c := by
  cases word : isWordChar c with
  | false => exact word
  | true =>
    have blank := toNat_of_isBlank h
    have bounds := toNat_of_isWordChar word
    omega

theorem eq_of_ofSymbol?_eq_some {c : Char} {kind : Token.Kind}
    (h : Token.Kind.ofSymbol? c = some kind) : c ∈ ['+', '-', '*', '/', '(', ')'] := by
  unfold Token.Kind.ofSymbol? at h
  split at h <;> simp_all

theorem isDelimiter_of_ofSymbol?_eq_some {c : Char} {kind : Token.Kind}
    (h : Token.Kind.ofSymbol? c = some kind) : IsDelimiter c := by
  have mem := eq_of_ofSymbol?_eq_some h
  simp only [List.mem_cons, List.not_mem_nil, or_false] at mem
  rcases mem with rfl | rfl | rfl | rfl | rfl | rfl <;> rfl

theorem isBlank_of_ofSymbol?_eq_some {c : Char} {kind : Token.Kind}
    (h : Token.Kind.ofSymbol? c = some kind) : isBlank c = false := by
  have mem := eq_of_ofSymbol?_eq_some h
  simp only [List.mem_cons, List.not_mem_nil, or_false] at mem
  rcases mem with rfl | rfl | rfl | rfl | rfl | rfl <;> rfl

theorem IsDelimiter.isNumeral {c : Char} (h : IsDelimiter c) : isNumeral c = false := by
  simp only [IsDelimiter, isWordChar, Char.isAlphanum, Bool.or_eq_false_iff] at h
  simp only [Abacus.isNumeral, Bool.or_eq_false_iff]
  exact ⟨h.1.2, h.2⟩

theorem IsDelimiter.isBaseLetter {c : Char} (h : IsDelimiter c) : isBaseLetter c = false := by
  cases letter : Abacus.isBaseLetter c with
  | false => rfl
  | true =>
    simp only [Abacus.isBaseLetter, List.mem_cons, List.not_mem_nil, or_false,
      decide_eq_true_eq] at letter
    rcases letter with rfl | rfl | rfl | rfl | rfl | rfl <;> cases h

theorem Text.takeWhile_append_cons {p : Char → Bool} {d : Char} (h : p d = false)
    (ds cs : List Char) : (cs ++ d :: ds).takeWhile p = cs.takeWhile p := by
  rw [List.takeWhile_append, List.takeWhile_cons_of_neg (by simp [h]), List.append_nil]
  split
  next whole => exact ((List.takeWhile_prefix p).eq_of_length whole).symm
  next => rfl

theorem Text.dropWhile_append_cons {p : Char → Bool} {d : Char} (h : p d = false)
    (ds cs : List Char) : (cs ++ d :: ds).dropWhile p = cs.dropWhile p ++ d :: ds := by
  rw [List.dropWhile_append, List.dropWhile_cons_of_neg (by simp [h])]
  split
  next empty => rw [List.isEmpty_iff.1 empty, List.nil_append]
  next => rfl

/-- A number ends before a delimiter. -/
theorem splitNumber_append_cons {d : Char} (h : IsDelimiter d) (first : Char) (cs ds : List Char) :
    splitNumber first (cs ++ d :: ds) =
      ((splitNumber first cs).1, (splitNumber first cs).2 ++ d :: ds) := by
  cases cs with
  | nil => simp [splitNumber, h.isBaseLetter, h.isNumeral]
  | cons c cs =>
    rw [List.cons_append, splitNumber, splitNumber]
    split
    · rw [takeWhile_append_cons h, dropWhile_append_cons h]
    · rw [← List.cons_append, takeWhile_append_cons h.isNumeral, dropWhile_append_cons h.isNumeral]

/-- A token ends before a delimiter. -/
theorem splitToken_append_cons {d : Char} (h : IsDelimiter d) (first : Char) (cs ds : List Char) :
    splitToken first (cs ++ d :: ds) =
      ((splitToken first cs).1, (splitToken first cs).2.1,
        (splitToken first cs).2.2 ++ d :: ds) := by
  unfold splitToken
  split
  · rfl
  · split
    · rw [splitNumber_append_cons h]
    · rfl

namespace Cursor

/-! ## Reading off tokens -/

/-- Tokens depend on what comes after the blanks. -/
theorem tokens_congr {c c' : Cursor} (h : c.skipBlanks = c'.skipBlanks) : c.tokens = c'.tokens := by
  have next : c.next = c'.next := by rw [Cursor.next, Cursor.next, h]
  rw [tokens.eq_def c, tokens.eq_def c', next]
  split <;> split <;> simp_all

@[simp] theorem tokens_nil (offset : Nat) : tokens ⟨offset, []⟩ = [] := by
  rw [tokens.eq_def]
  rfl

theorem tokens_blank {b : Char} (h : isBlank b = true) (offset : Nat) (cs : List Char) :
    tokens ⟨offset, b :: cs⟩ = tokens ⟨offset + b.utf8Size, cs⟩ := by
  refine tokens_congr ?_
  simp only [skipBlanks, List.takeWhile_cons, List.dropWhile_cons, h, if_true, byteLength_cons]
  rw [Nat.add_assoc]

/-- Blanks before characters give no token. -/
theorem tokens_blanks_append {bs : List Char} (blank : ∀ b ∈ bs, isBlank b = true) (offset : Nat)
    (cs : List Char) : tokens ⟨offset, bs ++ cs⟩ = tokens ⟨offset + byteLength bs, cs⟩ := by
  induction bs generalizing offset with
  | nil => rfl
  | cons b bs ih =>
    rw [List.cons_append, tokens_blank (blank b List.mem_cons_self),
      ih fun c mem => blank c (List.mem_cons_of_mem b mem), byteLength_cons, Nat.add_assoc]

theorem tokens_cons {first : Char} (h : isBlank first = false) (offset : Nat) (cs : List Char) :
    tokens ⟨offset, first :: cs⟩ =
      (readToken offset first cs).1 :: tokens (readToken offset first cs).2 := by
  have here : (⟨offset, first :: cs⟩ : Cursor).skipBlanks = ⟨offset, first :: cs⟩ := by
    simp [skipBlanks, h]
  have next : (⟨offset, first :: cs⟩ : Cursor).next = readToken offset first cs := by
    rw [Cursor.next, here]
  rw [tokens.eq_def, here, next]

theorem tokens_symbol {c : Char} {kind : Token.Kind} (h : Token.Kind.ofSymbol? c = some kind)
    (offset : Nat) (cs : List Char) :
    tokens ⟨offset, c :: cs⟩ =
      ⟨kind, .ofList [c], ⟨offset, offset + c.utf8Size⟩⟩ :: tokens ⟨offset + c.utf8Size, cs⟩ := by
  rw [tokens_cons (isBlank_of_ofSymbol?_eq_some h)]
  simp [readToken, splitToken, h]

/-- What a token leaves, at its end. -/
theorem readToken_append_cons {d : Char} (h : IsDelimiter d) (offset : Nat) (first : Char)
    (cs ds : List Char) :
    readToken offset first (cs ++ d :: ds) =
      ((readToken offset first cs).1,
        ⟨(readToken offset first cs).2.offset, (readToken offset first cs).2.rest ++ d :: ds⟩) := by
  simp only [readToken, splitToken_append_cons h]

theorem readToken_offset (offset : Nat) (first : Char) (cs : List Char) :
    (readToken offset first cs).2.offset + byteLength (readToken offset first cs).2.rest =
      offset + byteLength (first :: cs) := by
  have parts := congrArg byteLength (splitToken_append first cs)
  rw [byteLength_append] at parts
  show offset + byteLength (first :: (splitToken first cs).2.1) +
    byteLength (splitToken first cs).2.2 = offset + byteLength (first :: cs)
  rw [byteLength_cons, byteLength_cons]
  omega

/-- What holds where nothing is left, before a blank if it holds after it, and before a token if it
holds after that, holds at every offset of all characters.  A token may take several of them, so
that the induction is on how many are left. -/
theorem byTokens {P : Nat → List Char → Prop} (nil : ∀ offset, P offset [])
    (blank : ∀ offset b cs, isBlank b = true → P (offset + b.utf8Size) cs → P offset (b :: cs))
    (token : ∀ offset first cs, isBlank first = false →
      P (readToken offset first cs).2.offset (readToken offset first cs).2.rest →
      P offset (first :: cs)) (offset : Nat) (cs : List Char) : P offset cs := by
  induction hn : cs.length using Nat.strongRecOn generalizing offset cs with
  | ind n ih =>
    cases cs with
    | nil => exact nil offset
    | cons first cs =>
      rw [List.length_cons] at hn
      cases space : isBlank first with
      | true => exact blank offset first cs space (ih cs.length (by omega) _ _ rfl)
      | false =>
        have shorter := readToken_rest_length offset first cs
        exact token offset first cs space (ih _ (by omega) _ _ rfl)

/-- What comes before a delimiter and what begins with it are read apart. -/
theorem tokens_append {d : Char} (h : IsDelimiter d) (offset : Nat) (cs ds : List Char) :
    tokens ⟨offset, cs ++ d :: ds⟩ =
      tokens ⟨offset, cs⟩ ++ tokens ⟨offset + byteLength cs, d :: ds⟩ := by
  induction offset, cs using byTokens with
  | nil offset => simp
  | blank offset b cs blank ih =>
    rw [List.cons_append, tokens_blank blank, tokens_blank blank, ih, byteLength_cons,
      Nat.add_assoc]
  | token offset first cs blank ih =>
    rw [List.cons_append, tokens_cons blank, tokens_cons blank, readToken_append_cons h, ih,
      readToken_offset, List.cons_append]

/-- The place that lies so many bytes further on. -/
def shift (distance : Nat) (c : Cursor) : Cursor :=
  ⟨c.offset + distance, c.rest⟩

theorem readToken_shift (distance offset : Nat) (first : Char) (cs : List Char) :
    readToken (offset + distance) first cs =
      ((readToken offset first cs).1.relocate (.shift distance),
        (readToken offset first cs).2.shift distance) := by
  simp only [readToken, shift, Token.relocate, Span.shift, Nat.add_right_comm]

/-- Tokens read further on are the same tokens, further on. -/
theorem tokens_shift (distance offset : Nat) (cs : List Char) :
    tokens ⟨offset + distance, cs⟩ =
      (tokens ⟨offset, cs⟩).map (.relocate (.shift distance)) := by
  induction offset, cs using byTokens with
  | nil offset => simp
  | blank offset b cs blank ih =>
    rw [tokens_blank blank, tokens_blank blank, Nat.add_right_comm, ih]
  | token offset first cs blank ih =>
    rw [tokens_cons blank, tokens_cons blank, readToken_shift, List.map_cons]
    exact congrArg _ ih

end Cursor

/-! ## Bare tokens of texts put together -/

open Cursor

theorem map_bare_tokens (offset : Nat) (cs : List Char) :
    (tokens ⟨offset, cs⟩).map Token.bare = bareTokens cs := by
  rw [← Nat.zero_add offset, tokens_shift offset 0 cs, List.map_map]
  rfl

@[simp] theorem bareTokens_nil : bareTokens [] = [] := by
  rw [bareTokens, tokens_nil, List.map_nil]

/-- The bare token of a symbol. -/
def Token.ofSymbol (kind : Token.Kind) (c : Char) : Token :=
  ⟨kind, .ofList [c], ⟨0, 0⟩⟩

theorem bareTokens_symbol {c : Char} {kind : Token.Kind} (h : Token.Kind.ofSymbol? c = some kind)
    (cs : List Char) : bareTokens (c :: cs) = .ofSymbol kind c :: bareTokens cs := by
  rw [bareTokens, tokens_symbol h, List.map_cons, map_bare_tokens]
  rfl

theorem bareTokens_append {d : Char} (h : IsDelimiter d) (cs ds : List Char) :
    bareTokens (cs ++ d :: ds) = bareTokens cs ++ bareTokens (d :: ds) := by
  rw [bareTokens, tokens_append h, List.map_append, map_bare_tokens, map_bare_tokens]

/-- Blanks before a text are nothing to its tokens. -/
theorem bareTokens_blanks_append {bs : List Char} (h : ∀ b ∈ bs, isBlank b = true)
    (cs : List Char) : bareTokens (bs ++ cs) = bareTokens cs := by
  rw [bareTokens, tokens_blanks_append h, map_bare_tokens]

/-- Blanks after a text are nothing to its tokens. -/
theorem bareTokens_append_blanks {bs : List Char} (h : ∀ b ∈ bs, isBlank b = true)
    (cs : List Char) : bareTokens (cs ++ bs) = bareTokens cs := by
  cases bs with
  | nil => rw [List.append_nil]
  | cons b bs =>
    have empty : bareTokens (b :: bs) = [] := by
      simpa using bareTokens_blanks_append h []
    rw [bareTokens_append (isDelimiter_of_isBlank (h b List.mem_cons_self)), empty,
      List.append_nil]

/-- Trimming a text is nothing to its tokens. -/
theorem bareTokens_trim (cs : List Char) : bareTokens (trim cs) = bareTokens cs := by
  obtain ⟨bs, after, blank⟩ := exists_eq_trimEnd_append (cs.dropWhile isBlank)
  have before : bareTokens (cs.dropWhile isBlank) = bareTokens cs := by
    have parts : cs.takeWhile isBlank ++ cs.dropWhile isBlank = cs :=
      List.takeWhile_append_dropWhile
    rw [← bareTokens_blanks_append (List.all_eq_true.1 List.all_takeWhile) (cs.dropWhile isBlank),
      parts]
  calc
    bareTokens (trim cs) = bareTokens (trimEnd (cs.dropWhile isBlank) ++ bs) :=
      (bareTokens_append_blanks blank _).symm
    _ = bareTokens cs := by rw [← after, before]

end Abacus
