import Abacus.Text.Blank
import Abacus.Text.Bytes
import Abacus.Token

/-!
# Reading tokens off a line

A *cursor* is a place in a line: the number of bytes already read, and the
characters that are left.  What it reads next depends on the characters alone.
The offset only says where the token stands.

* Blanks are skipped.
* Each of `+ - * / ( )` is a token by itself.
* A decimal digit begins a number.  If it is `0` and one of the letters
  `x X o O b B` follows, the number goes on through all letters, digits and
  underscores after it.  Any other number goes on through digits and
  underscores.
* Any other character is an illegal token by itself.
* When nothing is left there is the end mark, however often it is asked for.

`next_rest_length` says that reading a token other than the end mark leaves
fewer characters, so `tokens` reads to the end by recursion on their number.
-/

namespace Abacus

open Text

/-! ## The extent of a number -/

/-- Whether a letter after a `0` chooses the base of a number. -/
def isBaseLetter (c : Char) : Bool :=
  c ∈ ['x', 'X', 'o', 'O', 'b', 'B']

/-- Whether a number without a base letter goes on through a character. -/
def isNumeral (c : Char) : Bool :=
  c.isDigit || c = '_'

/-- Whether a number with a base letter goes on through a character. -/
def isWordChar (c : Char) : Bool :=
  c.isAlphanum || c = '_'

/-- The characters of a number after its first one, and what follows the number. -/
def splitNumber (first : Char) : List Char → List Char × List Char
  | [] => ([], [])
  | c :: cs =>
    if first = '0' ∧ isBaseLetter c then
      (c :: cs.takeWhile isWordChar, cs.dropWhile isWordChar)
    else
      ((c :: cs).takeWhile isNumeral, (c :: cs).dropWhile isNumeral)

/-- A number and what follows it are the characters that were there. -/
theorem splitNumber_append (first : Char) (cs : List Char) :
    (splitNumber first cs).1 ++ (splitNumber first cs).2 = cs := by
  cases cs with
  | nil => rfl
  | cons c cs =>
    rw [splitNumber]
    split
    · simp [List.takeWhile_append_dropWhile]
    · exact List.takeWhile_append_dropWhile

/-- The kind of the token that begins with a character, its further characters, and what follows
it. -/
def splitToken (first : Char) (cs : List Char) : Token.Kind × List Char × List Char :=
  match Token.Kind.ofSymbol? first with
  | some kind => (kind, [], cs)
  | none => if first.isDigit then (.number, splitNumber first cs) else (.illegal, [], cs)

/-- A token and what follows it are the characters that were there. -/
theorem splitToken_append (first : Char) (cs : List Char) :
    (splitToken first cs).2.1 ++ (splitToken first cs).2.2 = cs := by
  unfold splitToken
  split
  · rfl
  · split
    · exact splitNumber_append first cs
    · rfl

/-! ## Cursors -/

/-- A place in a line. -/
structure Cursor where
  /-- The number of bytes before the place. -/
  offset : Nat
  /-- The characters after the place. -/
  rest : List Char
deriving DecidableEq, Repr

namespace Cursor

/-- The start of a line. -/
def ofString (source : String) : Cursor :=
  ⟨0, source.toList⟩

/-- The place after the blanks that come next. -/
def skipBlanks (c : Cursor) : Cursor :=
  ⟨c.offset + byteLength (c.rest.takeWhile isBlank), c.rest.dropWhile isBlank⟩

/-- The place at the end of the line. -/
def finish (c : Cursor) : Cursor :=
  ⟨c.offset + byteLength c.rest, []⟩

/-- The end mark of the line. -/
def mark (c : Cursor) : Token :=
  .mark c.finish.offset

/-- Reads the token that begins with `first` at an offset, before the characters `cs`. -/
def readToken (offset : Nat) (first : Char) (cs : List Char) : Token × Cursor :=
  let (kind, more, rest) := splitToken first cs
  let stop := offset + byteLength (first :: more)
  (⟨kind, .ofList (first :: more), ⟨offset, stop⟩⟩, ⟨stop, rest⟩)

/-- The next token, and the place after it. -/
def next (c : Cursor) : Token × Cursor :=
  match c.skipBlanks.rest with
  | [] => (.mark c.skipBlanks.offset, c.skipBlanks)
  | first :: cs => readToken c.skipBlanks.offset first cs

/-- The place after `n` tokens. -/
def skip : Nat → Cursor → Cursor
  | 0, c => c
  | n + 1, c => skip n c.next.2

/-! ## All tokens of a line -/

/-- A token leaves no more characters than followed its first one. -/
theorem readToken_rest_length (offset : Nat) (first : Char) (cs : List Char) :
    (readToken offset first cs).2.rest.length ≤ cs.length := by
  have h := congrArg List.length (splitToken_append first cs)
  rw [List.length_append] at h
  exact Nat.le.intro (Nat.add_comm .. ▸ h)

/-- Reading a token leaves fewer characters, unless only blanks are left. -/
theorem next_rest_length {c : Cursor} {first : Char} {cs : List Char}
    (h : c.skipBlanks.rest = first :: cs) : c.next.2.rest.length < c.rest.length := by
  have hle : c.skipBlanks.rest.length ≤ c.rest.length := (List.dropWhile_suffix isBlank).length_le
  have hrest := readToken_rest_length c.skipBlanks.offset first cs
  rw [h, List.length_cons] at hle
  simp only [next, h]
  omega

/-- The tokens before the end mark. -/
def tokens (c : Cursor) : List Token :=
  match _h : c.skipBlanks.rest with
  | [] => []
  | _ :: _ => c.next.1 :: tokens c.next.2
termination_by c.rest.length
decreasing_by exact next_rest_length _h

/-- All tokens of the line, the end mark last. -/
def scan (c : Cursor) : List Token :=
  c.tokens ++ [c.mark]

end Cursor

end Abacus
