/-!
# Texts as bytes

Positions in a source line are counted in bytes of its UTF-8 form, output is a
sequence of bytes that may stop inside a character, and what is typed at the
prompt is bytes that may be no text at all.  This module holds the three
functions between texts and bytes that the rest uses.
-/

namespace Abacus.Text

/-- The number of bytes that characters take in UTF-8. -/
def byteLength (cs : List Char) : Nat :=
  (String.ofList cs).utf8ByteSize

@[simp] theorem byteLength_nil : byteLength [] = 0 := rfl

@[simp] theorem byteLength_append (as bs : List Char) :
    byteLength (as ++ bs) = byteLength as + byteLength bs := by
  rw [byteLength, String.ofList_append, String.utf8ByteSize_append, byteLength, byteLength]

@[simp] theorem byteLength_cons (c : Char) (cs : List Char) :
    byteLength (c :: cs) = c.utf8Size + byteLength cs := by
  rw [← List.singleton_append, byteLength_append, byteLength, ← String.singleton_eq_ofList,
    String.utf8ByteSize_singleton]

/-- The bytes of a text. -/
def encode (text : String) : Array UInt8 :=
  text.toByteArray.data

/-- The text that bytes are, if they are UTF-8. -/
def decode? (bytes : List UInt8) : Option String :=
  String.fromUTF8? ⟨bytes.toArray⟩

end Abacus.Text
