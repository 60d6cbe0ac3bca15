import Abacus.Proofs.Coverage

/-!
# Reading goes on as it would begin

What a cursor reads depends on the characters that are left, and on the offset only
for places.  So reading on from any place is reading what is left as a line of its
own, further on.  This goes for the tokens (`Cursor.scan_shift`) and for what a
parser made at the place finds (`Parser.line_ofCursor_shift`).

Blanks that are not at the place of a cursor can be brought there: no token goes on
through a blank, so the tokens before blanks are those of the text before them
(`Cursor.tokens_append_blanks`).  `Cursor.scan_onward` puts these together.
-/

namespace Abacus

open Text

namespace Cursor

/-! ## Places further on -/

theorem mark_relocate_shift (distance length : Nat) :
    (Token.mark length).relocate (.shift distance) = .mark (length + distance) := by
  simp only [Token.mark, Token.relocate, Span.single, Span.shift, Nat.add_right_comm]

theorem mark_shift (distance : Nat) (c : Cursor) :
    (c.shift distance).mark = c.mark.relocate (.shift distance) := by
  rw [mark, mark, mark_relocate_shift]
  exact congrArg Token.mark (Nat.add_right_comm ..)

theorem shift_tokens (distance : Nat) (c : Cursor) :
    (c.shift distance).tokens = c.tokens.map (.relocate (.shift distance)) :=
  tokens_shift distance c.offset c.rest

/-- Reading all tokens further on gives the same tokens, further on. -/
theorem scan_shift (distance : Nat) (c : Cursor) :
    (c.shift distance).scan = c.scan.map (.relocate (.shift distance)) := by
  rw [scan, shift_tokens, mark_shift, scan, List.map_append, List.map_singleton]

/-- A cursor in a text stands where a final part of the text begins. -/
theorem IsAt.exists_eq_shift {source : String} {c : Cursor} (h : c.IsAt source) :
    ∃ before after, source = before ++ after ∧
      c = (ofString after).shift before.utf8ByteSize := by
  obtain ⟨before, text, offset⟩ := h
  refine ⟨.ofList before, .ofList c.rest, ?_, ?_⟩
  · rw [← String.ofList_append, ← text, String.ofList_toList]
  · rw [utf8ByteSize_eq_byteLength, String.toList_ofList, ← offset, shift, ofString,
      String.toList_ofList, Nat.zero_add]

/-! ## Blanks between texts -/

/-- What comes before blanks and what comes after them are read apart. -/
theorem tokens_append_blanks {bs : List Char} (nonempty : bs ≠ [])
    (blank : ∀ b ∈ bs, isBlank b = true) (offset : Nat) (cs ds : List Char) :
    tokens ⟨offset, cs ++ bs ++ ds⟩ =
      tokens ⟨offset, cs⟩ ++ tokens ⟨offset + byteLength (cs ++ bs), ds⟩ := by
  obtain ⟨b, bs, rfl⟩ := List.exists_cons_of_ne_nil nonempty
  have delimiter : IsDelimiter b := isDelimiter_of_isBlank (blank b List.mem_cons_self)
  calc
    tokens ⟨offset, cs ++ b :: bs ++ ds⟩
      = tokens ⟨offset, cs ++ b :: (bs ++ ds)⟩ := by rw [List.append_assoc, List.cons_append]
    _ = tokens ⟨offset, cs⟩ ++ tokens ⟨offset + byteLength cs, (b :: bs) ++ ds⟩ :=
      tokens_append delimiter offset cs (bs ++ ds)
    _ = tokens ⟨offset, cs⟩ ++ tokens ⟨offset + byteLength (cs ++ b :: bs), ds⟩ := by
      rw [tokens_blanks_append blank, byteLength_append, Nat.add_assoc]

/-- The tokens of two texts with blanks between them are those of the one, without the end mark,
and then those of the other, further on. -/
theorem scan_append_blanks {a w b : String} (nonempty : w ≠ "")
    (blank : ∀ c ∈ w.toList, isBlank c = true) :
    (ofString (a ++ w ++ b)).scan =
      (ofString a).scan.dropLast ++
        (ofString b).scan.map (.relocate (.shift (a ++ w).utf8ByteSize)) := by
  have chars : w.toList ≠ [] := fun empty => nonempty (String.toList_eq_nil_iff.1 empty)
  have tokens : (ofString (a ++ w ++ b)).tokens =
      (ofString a).tokens ++ ((ofString b).shift (a ++ w).utf8ByteSize).tokens := by
    rw [utf8ByteSize_eq_byteLength, ofString, String.toList_append, String.toList_append]
    exact tokens_append_blanks chars blank 0 a.toList b.toList
  have mark : (ofString (a ++ w ++ b)).mark = ((ofString b).shift (a ++ w).utf8ByteSize).mark := by
    rw [mark_shift, mark_ofString, mark_ofString, mark_relocate_shift, String.utf8ByteSize_append,
      Nat.add_comm]
  rw [← scan_shift, scan, tokens, mark, scan, List.dropLast_concat, scan, List.append_assoc]

end Cursor

/-! ## Parsers made further on -/

/-- A parser made further on finds the same, further on. -/
theorem Parser.line_ofCursor_shift (distance : Nat) (c : Cursor) :
    (ofCursor (c.shift distance)).line.1 =
        (ofCursor c).line.1.map (.relocate (.shift distance)) ∧
      (ofCursor (c.shift distance)).line.2.faults =
        (ofCursor c).line.2.faults.map (.relocate (.shift distance)) := by
  have moved : Climb.line (c.shift distance).mark depthLimit (c.shift distance).tokens =
      (Climb.line c.mark depthLimit c.tokens).relocate (.shift distance) := by
    rw [Cursor.shift_tokens, Cursor.mark_shift, Climb.line_relocate]
  exact ⟨congrArg (·.exprs) moved, congrArg (·.faults) moved⟩

namespace Cursor

/-- Blanks between two texts keep their tokens apart: they are those of the one, without the end
mark, and then those of the other, as many bytes further on as come before it.  And wherever the
reader stands, after any number of tokens, what it reads from there on, and what a parser made
there finds, is what reading the rest of the text alone gives, as many bytes further on as were
passed. -/
theorem scan_onward :
    (∀ a w b : String, w ≠ "" → (∀ c ∈ w.toList, isBlank c = true) →
      (ofString (a ++ w ++ b)).scan =
        (ofString a).scan.dropLast ++
          (ofString b).scan.map (.relocate (.shift (a ++ w).utf8ByteSize))) ∧
    ∀ (source : String) (k : Nat), ∃ before after, source = before ++ after ∧
      ((ofString source).skip k).offset = before.utf8ByteSize ∧
      ((ofString source).skip k).rest = after.toList ∧
      ((ofString source).skip k).scan =
        (ofString after).scan.map (.relocate (.shift before.utf8ByteSize)) ∧
      (Parser.ofCursor ((ofString source).skip k)).line.1 =
        (Parser.ofString after).line.1.map (.relocate (.shift before.utf8ByteSize)) ∧
      (Parser.ofCursor ((ofString source).skip k)).line.2.faults =
        (Parser.ofString after).line.2.faults.map
          (.relocate (.shift before.utf8ByteSize)) := by
  refine ⟨fun a w b nonempty blank => scan_append_blanks nonempty blank, ?_⟩
  intro source k
  obtain ⟨before, after, parts, place⟩ := (skip_isAt (ofString_isAt source) k).exists_eq_shift
  refine ⟨before, after, parts, ?_, ?_, ?_, ?_⟩
  · rw [place, shift, ofString, Nat.zero_add]
  · rw [place, shift, ofString]
  · rw [place, scan_shift]
  · rw [place]
    exact Parser.line_ofCursor_shift before.utf8ByteSize (ofString after)

/-- A number that lacks its digits, before a wide blank: the letter after the blank is none of
them. -/
theorem scan_onward_after_prefix :
    (∀ c ∈ "\u2003".toList, isBlank c = true) ∧
      (ofString ("1_+0x" ++ "\u2003" ++ "f 2")).scan =
        (ofString "1_+0x").scan.dropLast ++
          (ofString "f 2").scan.map (.relocate (.shift 8)) := by
  have chars : "\u2003".toList = ['\u2003'] := by simp
  have blank : ∀ c ∈ "\u2003".toList, isBlank c = true := by
    rw [chars]
    exact List.forall_mem_singleton.2 (by decide)
  have length : ("1_+0x" ++ "\u2003").utf8ByteSize = 8 := by decide +kernel
  refine ⟨blank, ?_⟩
  rw [← length]
  exact scan_onward.1 "1_+0x" "\u2003" "f 2" (by decide) blank

end Cursor

end Abacus
