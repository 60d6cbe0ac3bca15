/-!
# Lines of a text

A text holds lines in one of two senses.

* A *script* is read line by line at line feeds.  One carriage return directly
  before a line feed belongs to the line end, any other stays in its line, and
  a text that ends in a line feed has no empty last line.  `lines` gives these
  lines without their ends.
* A *diagnostic* shows a line of its source as a terminal would break it: after
  a carriage return and line feed together, or after any one of the characters
  of `isLineEnd`.  `brokenLines` gives these lines, each with the end it has.

Both are structural recursions on the characters.
-/

namespace Abacus.Text

/-- Puts a character at the start of the first line, which is made if there is none. -/
def consLine (c : Char) : List (List Char) → List (List Char)
  | [] => [[c]]
  | l :: ls => (c :: l) :: ls

/-- The lines of a script: cut at line feeds, each without its end. -/
def lines : List Char → List (List Char)
  | [] => []
  | '\n' :: cs => [] :: lines cs
  | '\r' :: '\n' :: cs => [] :: lines cs
  | c :: cs => consLine c (lines cs)

/-- Whether a character ends a line that a diagnostic shows. -/
def isLineEnd (c : Char) : Bool :=
  c ∈ ['\r', '\n', '\x0b', '\x0c', '\u0085', '\u2028', '\u2029']

/-- The lines of a text as a diagnostic counts them, each with its end. -/
def brokenLines : List Char → List (List Char)
  | [] => []
  | '\r' :: '\n' :: cs => ['\r', '\n'] :: brokenLines cs
  | c :: cs => if isLineEnd c then [c] :: brokenLines cs else consLine c (brokenLines cs)

end Abacus.Text
