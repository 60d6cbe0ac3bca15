/-!
# Ranges of code points

A property of characters that a standard fixes by a table is kept here as a
list of ranges of code points.  A character has the property when one of the
ranges holds its code point.  The tables are written in increasing order, and
no two of their ranges touch, but membership does not rely on either.
-/

namespace Abacus.Text

/-- The code points from `first` to `last`, both included. -/
structure CodeRange where
  /-- The least code point of the range. -/
  first : Nat
  /-- The greatest code point of the range. -/
  last : Nat
deriving DecidableEq

namespace CodeRange

/-- Whether the code point of `c` lies in the range. -/
def holds (r : CodeRange) (c : Char) : Bool :=
  r.first ≤ c.toNat && c.toNat ≤ r.last

end CodeRange

/-- Whether some range of the table holds the character. -/
def inTable (table : List CodeRange) (c : Char) : Bool :=
  table.any (·.holds c)

/-- A character is in a table exactly when its code point is between the ends of one of its
ranges. -/
theorem inTable_iff {table : List CodeRange} {c : Char} :
    inTable table c = true ↔ ∃ r ∈ table, r.first ≤ c.toNat ∧ c.toNat ≤ r.last := by
  simp [inTable, CodeRange.holds]

end Abacus.Text
