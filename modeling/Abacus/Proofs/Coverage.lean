import Abacus.Proofs.Encoding
import Abacus.Proofs.Tiling

/-!
# Reading tokens loses nothing and invents nothing

What a tiling means for the bytes of a text.  The tokens of a text *cover* it:
each is the slice of the text that its range says, the ranges follow one another,
no blank is in them, and nothing but blanks is outside of them.

The reader moves along the text by whole characters, so its offset is always a
position of the text, also inside of a token and between blanks.  `next_isAt` is
one token of this, `skip_isAt` any number.

`scan_covers` puts both together.
-/

namespace Abacus

open Text

/-! ## Ranges that follow one another -/

/-- At most one of some ranges that follow one another holds a byte. -/
theorem eq_of_pairwise_of_mem {ts : List Token}
    (apart : ts.Pairwise fun t u => t.span.stop ≤ u.span.start) {i : Nat} {t u : Token}
    (memT : t ∈ ts) (memU : u ∈ ts) (inT : t.span.start ≤ i ∧ i < t.span.stop)
    (inU : u.span.start ≤ i ∧ i < u.span.stop) : t = u := by
  induction apart with
  | nil => cases memT
  | @cons first ts before _ ih =>
    rcases List.mem_cons.1 memT with rfl | laterT
    · rcases List.mem_cons.1 memU with rfl | laterU
      · rfl
      · have := before u laterU
        omega
    · rcases List.mem_cons.1 memU with rfl | laterU
      · have := before t laterT
        omega
      · exact ih laterT laterU

/-! ## Covering a text -/

/-- Some tokens cover a text. -/
structure Covers (source : String) (ts : List Token) : Prop where
  /-- The range of a token is not empty and lies in the text. -/
  range : ∀ t ∈ ts, t.span.start < t.span.stop ∧ t.span.stop ≤ source.utf8ByteSize
  /-- It begins and ends between characters. -/
  boundary : ∀ t ∈ ts, String.Pos.Raw.IsValid source ⟨t.span.start⟩ ∧
    String.Pos.Raw.IsValid source ⟨t.span.stop⟩
  /-- It holds the bytes of the token. -/
  slice : ∀ t ∈ ts, (encode source).extract t.span.start t.span.stop = encode t.text
  /-- It ends before those of the tokens after it begin. -/
  apart : ts.Pairwise fun t u => t.span.stop ≤ u.span.start
  /-- No blank is in a token. -/
  unblank : ∀ t ∈ ts, ∀ c ∈ t.text.toList, isBlank c = false
  /-- Every byte outside of all ranges is one of a blank. -/
  gap : ∀ i < source.utf8ByteSize, (∀ t ∈ ts, ¬ (t.span.start ≤ i ∧ i < t.span.stop)) →
    ∃ as c bs, source.toList = as ++ c :: bs ∧ byteLength as ≤ i ∧
      i < byteLength as + c.utf8Size ∧ isBlank c = true
  /-- Every other character lies in exactly one of them. -/
  once : ∀ as c bs, source.toList = as ++ c :: bs → isBlank c = false →
    ∃! t, t ∈ ts ∧ t.span.start ≤ byteLength as ∧ byteLength as + c.utf8Size ≤ t.span.stop

/-- The tokens of a tiling of a text cover it. -/
theorem Tiles.covers {source : String} {ts : List Token} (h : Tiles 0 source.toList ts) :
    Covers source ts where
  range t mem := by
    obtain ⟨lexeme, as, bs, parts, span⟩ := h.of_mem mem
    obtain ⟨first, more, text, -, -⟩ := lexeme
    have positive := first.utf8Size_pos
    rw [utf8ByteSize_eq_byteLength, parts, span]
    simp only [text, byteLength_append, byteLength_cons]
    omega
  boundary t mem := by
    obtain ⟨-, as, bs, parts, span⟩ := h.of_mem mem
    rw [Nat.zero_add] at span
    rw [span]
    refine ⟨isValid_of_append parts, ?_⟩
    rw [← byteLength_append]
    exact isValid_of_append (parts.trans (List.append_assoc ..).symm)
  slice t mem := by
    obtain ⟨-, as, bs, parts, span⟩ := h.of_mem mem
    rw [Nat.zero_add] at span
    rw [span, extract_encode parts, String.ofList_toList]
  apart := h.pairwise
  unblank t mem := (h.isLexeme t mem).isBlank_eq_false
  gap i inside outside := by
    rw [utf8ByteSize_eq_byteLength] at inside
    obtain ⟨as, c, bs, parts, low, high⟩ := exists_char_of_lt_byteLength inside
    refine ⟨as, c, bs, parts, low, high, ?_⟩
    rcases h.isBlank_or_mem parts with blank | ⟨t, mem, start, stop⟩
    · exact blank
    · exact absurd (by omega) (outside t mem)
  once as c bs parts blank := by
    have positive := c.utf8Size_pos
    rcases h.isBlank_or_mem parts with blank' | ⟨t, mem, start, stop⟩
    · rw [blank] at blank'
      cases blank'
    · rw [Nat.zero_add] at start stop
      refine ⟨t, ⟨mem, start, stop⟩, ?_⟩
      rintro u ⟨memU, startU, stopU⟩
      exact eq_of_pairwise_of_mem h.pairwise memU mem (i := byteLength as) (by omega) (by omega)

/-! ## Where the reader stands -/

namespace Cursor

/-- The cursor stands in a text: what is left comes after as many bytes of it as the offset says. -/
def IsAt (c : Cursor) (source : String) : Prop :=
  ∃ before, source.toList = before ++ c.rest ∧ c.offset = byteLength before

variable {source : String} {c : Cursor}

theorem ofString_isAt (source : String) : (ofString source).IsAt source :=
  ⟨[], rfl, rfl⟩

/-- Passing over characters keeps a cursor in its text. -/
theorem IsAt.pass (h : c.IsAt source) {as bs : List Char} (parts : c.rest = as ++ bs) :
    IsAt ⟨c.offset + byteLength as, bs⟩ source := by
  obtain ⟨before, text, offset⟩ := h
  refine ⟨before ++ as, ?_, ?_⟩
  · rw [text, parts, List.append_assoc]
  · rw [offset, byteLength_append]

theorem IsAt.skipBlanks (h : c.IsAt source) : c.skipBlanks.IsAt source :=
  h.pass List.takeWhile_append_dropWhile.symm

/-- Reading a token keeps a cursor in its text. -/
theorem next_isAt (h : c.IsAt source) : c.next.2.IsAt source := by
  rw [next]
  split
  · exact h.skipBlanks
  next first cs left =>
    have parts : c.skipBlanks.rest = (first :: (splitToken first cs).2.1) ++
        (splitToken first cs).2.2 := by
      rw [left, List.cons_append, splitToken_append]
    exact h.skipBlanks.pass parts

/-- So does reading any number of them. -/
theorem skip_isAt (h : c.IsAt source) (n : Nat) : (c.skip n).IsAt source := by
  induction n generalizing c with
  | zero => exact h
  | succ n ih => exact ih (next_isAt h)

theorem IsAt.isValid (h : c.IsAt source) : String.Pos.Raw.IsValid source ⟨c.offset⟩ := by
  obtain ⟨before, text, offset⟩ := h
  rw [offset]
  exact isValid_of_append text

/-- What is left is the text from the offset on. -/
theorem IsAt.extract_eq (h : c.IsAt source) :
    (encode source).extract c.offset source.utf8ByteSize = encode (.ofList c.rest) := by
  obtain ⟨before, text, offset⟩ := h
  have parts : source.toList = before ++ (c.rest ++ []) := by rw [List.append_nil, text]
  rw [offset, utf8ByteSize_eq_byteLength, text, byteLength_append, extract_encode parts]

/-- The end mark of a text stands after all its bytes. -/
theorem mark_ofString (source : String) : (ofString source).mark = .mark source.utf8ByteSize := by
  rw [utf8ByteSize_eq_byteLength, ← Nat.zero_add (byteLength source.toList)]
  rfl

/-- Reading all tokens of a text gives tokens that cover it and then the one end mark, whose range
is the byte after the text.  Wherever the reader stands, after any number of tokens and of the
characters that come next, its offset is a position of the text and the rest of the text is what it
looks at. -/
theorem scan_covers (source : String) :
    (∃ ts, (ofString source).scan =
        ts ++ [⟨.eof, "", ⟨source.utf8ByteSize, source.utf8ByteSize + 1⟩⟩] ∧
      (∀ t ∈ ts, t.kind ≠ .eof) ∧ Covers source ts) ∧
    ∀ n as bs, ((ofString source).skip n).rest = as ++ bs →
      String.Pos.Raw.IsValid source ⟨((ofString source).skip n).offset + byteLength as⟩ ∧
      (encode source).extract (((ofString source).skip n).offset + byteLength as)
        source.utf8ByteSize = encode (.ofList bs) := by
  have tiles : Tiles 0 source.toList (ofString source).tokens := tokens_tiles 0 source.toList
  constructor
  · refine ⟨(ofString source).tokens, ?_, fun t mem => (tiles.isLexeme t mem).kind_ne_eof,
      tiles.covers⟩
    have length : (ofString source).finish.offset = source.utf8ByteSize := by
      rw [utf8ByteSize_eq_byteLength]
      exact Nat.zero_add _
    rw [scan, mark, length]
    rfl
  · intro n as bs parts
    have stands := (skip_isAt (ofString_isAt source) n).pass parts
    exact ⟨stands.isValid, stands.extract_eq⟩

end Cursor

end Abacus
