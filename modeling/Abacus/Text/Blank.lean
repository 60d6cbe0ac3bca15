import Abacus.Text.CodeRange

/-!
# Blank characters

A *blank* is a character with the Unicode property `White_Space`.  Blanks
separate the tokens of a line, are trimmed off a line typed at the prompt, and
are cut off the end of a source line that a diagnostic shows.  The controls
`U+001C` to `U+001F`, the zero width space, the Mongolian vowel separator and
the byte order mark are not blank.

The property is a table of the standard.  `isBlank_iff` reads it as the list of
its ranges.
-/

namespace Abacus.Text

/-- The code points with the property `White_Space`. -/
def blankTable : List CodeRange :=
  [⟨0x0009, 0x000D⟩, ⟨0x0020, 0x0020⟩, ⟨0x0085, 0x0085⟩, ⟨0x00A0, 0x00A0⟩, ⟨0x1680, 0x1680⟩,
   ⟨0x2000, 0x200A⟩, ⟨0x2028, 0x2029⟩, ⟨0x202F, 0x202F⟩, ⟨0x205F, 0x205F⟩, ⟨0x3000, 0x3000⟩]

/-- Whether a character is white space. -/
def isBlank (c : Char) : Bool :=
  inTable blankTable c

/-- What blankness is, as a condition on the code point. -/
theorem isBlank_iff {c : Char} :
    isBlank c = true ↔ ∃ r ∈ blankTable, r.first ≤ c.toNat ∧ c.toNat ≤ r.last :=
  inTable_iff

/-! ## Trimming -/

/-- The characters without the blanks at their end. -/
def trimEnd (cs : List Char) : List Char :=
  (cs.reverse.dropWhile isBlank).reverse

/-- The characters without the blanks at either end. -/
def trim (cs : List Char) : List Char :=
  trimEnd (cs.dropWhile isBlank)

/-- What is cut off the end is blank. -/
theorem exists_eq_trimEnd_append (cs : List Char) :
    ∃ bs, cs = trimEnd cs ++ bs ∧ ∀ c ∈ bs, isBlank c = true := by
  refine ⟨(cs.reverse.takeWhile isBlank).reverse, ?_, ?_⟩
  · rw [trimEnd, ← List.reverse_append, List.takeWhile_append_dropWhile, List.reverse_reverse]
  · intro c hc
    exact List.all_eq_true.1 List.all_takeWhile c (List.mem_reverse.1 hc)

end Abacus.Text
