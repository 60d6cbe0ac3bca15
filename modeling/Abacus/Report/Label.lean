import Abacus.Text.Bytes
import Abacus.Text.Lines
import Abacus.Token

/-!
# Labels

A report draws a *label* under the part of the source that is in error.  The
label is what the place of the error says, cut off at the end of the source.
An error at the end of the source, where there is nothing to draw under, is
labelled at the last character instead.

A label of an error made by hand may be backwards, with its start after its
end.  Such a label cannot be drawn.

The *excerpt* is the line of the source in which the label starts, with the
label counted in characters of that line.
-/

namespace Abacus.Report

open Text

/-! ## Labels -/

/-- The bytes of the source to label for an error at a place. -/
def labelSpan (source : List Char) (place : Span) : Span :=
  if place.start < byteLength source then
    ⟨place.start, min place.stop (byteLength source)⟩
  else
    ⟨byteLength source.dropLast, byteLength source⟩

/-- A part of a source that can be drawn under. -/
structure Label where
  /-- The bytes of the source that are labelled. -/
  span : Span
  /-- The label does not end before it starts. -/
  ordered : span.start ≤ span.stop

/-- The label for an error at a place, unless it is backwards. -/
def label? (source : List Char) (place : Span) : Option Label :=
  if h : (labelSpan source place).start ≤ (labelSpan source place).stop then
    some ⟨labelSpan source place, h⟩
  else
    none

/-! ## Excerpts -/

/-- A line of a source with a label in it. -/
structure Excerpt where
  /-- The number of the line, from one. -/
  number : Nat
  /-- The line, with its end. -/
  line : List Char
  /-- The number of characters of the line before the label. -/
  start : Nat
  /-- The number of characters of the line before the end of the label. -/
  stop : Nat

/-- The number of characters that begin before an offset in bytes. -/
def charsBefore : List Char → Nat → Nat
  | _, 0 => 0
  | [], _ => 0
  | c :: cs, n => charsBefore cs (n - c.utf8Size) + 1

/-- The line among `lines` in which the label starts, where the first of them has a number and the
label is counted from its first byte. -/
def excerptFrom (number : Nat) (label : Span) : List (List Char) → Option Excerpt
  | [] => none
  | line :: lines =>
    if label.start < byteLength line then
      some ⟨number, line, charsBefore line label.start, charsBefore line label.stop⟩
    else
      excerptFrom (number + 1)
        ⟨label.start - byteLength line, label.stop - byteLength line⟩ lines

/-- The line of a source in which a label starts.  An empty source has none. -/
def excerpt? (source : List Char) (label : Label) : Option Excerpt :=
  excerptFrom 1 label.span (brokenLines source)

end Abacus.Report
