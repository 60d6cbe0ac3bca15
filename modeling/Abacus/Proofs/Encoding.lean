import Abacus.Text.Bytes

/-!
# Characters, bytes and offsets

A text is handled as a list of characters, and places in it are counted in bytes
of its encoding.  Encoding goes character by character, so an offset in bytes is
the number of bytes that some characters at the start of the text take.  Such an
offset is a position of the text (`isValid_of_append`), and what lies between two
of them is the encoding of the characters there (`extract_encode`).
-/

namespace Abacus.Text

/-! ## Encoding -/

/-- The bytes of some characters. -/
def utf8 (cs : List Char) : List UInt8 :=
  cs.flatMap String.utf8EncodeChar

@[simp] theorem utf8_nil : utf8 [] = [] := rfl

@[simp] theorem utf8_cons (c : Char) (cs : List Char) :
    utf8 (c :: cs) = String.utf8EncodeChar c ++ utf8 cs := rfl

@[simp] theorem utf8_append (as bs : List Char) : utf8 (as ++ bs) = utf8 as ++ utf8 bs :=
  List.flatMap_append

theorem toList_encode_ofList (cs : List Char) : (encode (String.ofList cs)).toList = utf8 cs := by
  show (List.flatMap String.utf8EncodeChar cs).toByteArray.data.toList = utf8 cs
  rw [List.toList_data_toByteArray, utf8]

theorem toList_encode (text : String) : (encode text).toList = utf8 text.toList := by
  rw [← toList_encode_ofList, String.ofList_toList]

theorem encode_append (a b : String) : encode (a ++ b) = encode a ++ encode b := by
  rw [encode, String.toByteArray_append, ByteArray.data_append, encode, encode]

/-- Decoding takes encoding back. -/
theorem decode?_utf8 (cs : List Char) : decode? (utf8 cs) = some (String.ofList cs) := by
  have bytes : (⟨(utf8 cs).toArray⟩ : ByteArray) = (String.ofList cs).toByteArray := by
    rw [← toList_encode_ofList, encode]
  have valid : (String.ofList cs).toByteArray.IsValidUTF8 := (String.ofList cs).isValidUTF8
  rw [decode?, bytes, String.fromUTF8?, dif_pos valid]
  rfl

/-! ## Offsets -/

theorem length_utf8 (cs : List Char) : (utf8 cs).length = byteLength cs := by
  induction cs with
  | nil => rfl
  | cons c cs ih =>
    rw [utf8_cons, List.length_append, String.length_utf8EncodeChar, ih, byteLength_cons]

theorem utf8ByteSize_eq_byteLength (text : String) :
    text.utf8ByteSize = byteLength text.toList := by
  rw [byteLength, String.ofList_toList]

/-- The offset after some characters at the start of a text is a position of the text. -/
theorem isValid_of_append {text : String} {as bs : List Char} (parts : text.toList = as ++ bs) :
    String.Pos.Raw.IsValid text ⟨byteLength as⟩ := by
  rw [String.Pos.Raw.isValid_iff_exists_append]
  refine ⟨.ofList as, .ofList bs, ?_, ?_⟩
  · rw [← String.ofList_append, ← parts, String.ofList_toList]
  · rw [String.Pos.Raw.ext_iff, String.byteIdx_rawEndPos, utf8ByteSize_eq_byteLength,
      String.toList_ofList]

/-- The bytes between two offsets are those of the characters between them. -/
theorem extract_encode {text : String} {as bs cs : List Char}
    (parts : text.toList = as ++ (bs ++ cs)) :
    (encode text).extract (byteLength as) (byteLength as + byteLength bs) =
      encode (.ofList bs) := by
  apply Array.toList_inj.1
  rw [Array.toList_extract, List.extract_eq_take_drop, toList_encode, parts, utf8_append,
    utf8_append, toList_encode_ofList, ← length_utf8 as, ← length_utf8 bs, List.drop_left,
    Nat.add_sub_cancel_left, List.take_left]

/-- Characters that are cut in two at the same offset are cut in the same way. -/
theorem append_inj_of_byteLength_eq {as bs as' bs' : List Char} (parts : as ++ bs = as' ++ bs')
    (offset : byteLength as = byteLength as') : as = as' ∧ bs = bs' := by
  induction as generalizing as' with
  | nil =>
    cases as' with
    | nil => exact ⟨rfl, parts⟩
    | cons c cs =>
      have positive := c.utf8Size_pos
      simp only [byteLength_nil, byteLength_cons] at offset
      omega
  | cons c cs ih =>
    cases as' with
    | nil =>
      have positive := c.utf8Size_pos
      simp only [byteLength_nil, byteLength_cons] at offset
      omega
    | cons d ds =>
      injection parts with same parts
      subst same
      rw [byteLength_cons, byteLength_cons] at offset
      obtain ⟨rfl, rest⟩ := ih parts (Nat.add_left_cancel offset)
      exact ⟨rfl, rest⟩

/-- Every byte of some characters belongs to one of them. -/
theorem exists_char_of_lt_byteLength {i : Nat} {cs : List Char} (inside : i < byteLength cs) :
    ∃ as c bs, cs = as ++ c :: bs ∧ byteLength as ≤ i ∧ i < byteLength as + c.utf8Size := by
  induction cs generalizing i with
  | nil => cases inside
  | cons c cs ih =>
    by_cases first : i < c.utf8Size
    · exact ⟨[], c, cs, rfl, Nat.zero_le i, by simpa using first⟩
    · rw [byteLength_cons] at inside
      obtain ⟨as, d, bs, rfl, low, high⟩ := @ih (i - c.utf8Size) (by omega)
      refine ⟨c :: as, d, bs, rfl, ?_, ?_⟩
      · rw [byteLength_cons]
        omega
      · rw [byteLength_cons]
        omega

end Abacus.Text
