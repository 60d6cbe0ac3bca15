/-!
# The printable part of a text

Besides characters that are seen, a text may hold *control characters* and the
*escape sequences* by which a program drives a terminal.  A message that quotes
what it was given shows the printable part only: neither controls nor sequences
get to the terminal, except for the blanks among the controls, which are the
tab, the line feed, the form feed and the carriage return.

A sequence begins with the escape character, and the character after it says
of what form it is.

* `[` begins a *control* sequence, which ends at a character from `@` to `~`.
* `]` begins a *command*, which ends at the bell.
* `P` begins a *device* sequence: a head, and then a string.  `X`, `^` and `_`
  begin a string at once.  A string ends at a character that has the byte `9C`
  in UTF-8, which is the terminator where characters are single bytes.
* Characters from the space to `/` are passed over, and then a character from
  `0` to `~` ends the sequence.
* Any other character from `0` to `~` ends the sequence.

In all of them an escape begins another sequence, and the controls `18` and
`1A` end the sequence.

A control that is a blank *suspends* a sequence that is no command and no
device sequence or string.  What follows it is shown as text up to the next
control, and there the sequence goes on, unless the text had a character beyond
ASCII, which ends it.
-/

namespace Abacus.Text

/-- Where in an escape sequence a text stands. -/
inductive Sequence
  /-- Outside of any. -/
  | none
  /-- After the escape character. -/
  | escape
  /-- After the escape character and others that are passed over. -/
  | escapeTail
  /-- In a control sequence. -/
  | control
  /-- In a command. -/
  | command
  /-- At the start of the head of a device sequence. -/
  | deviceHead
  /-- At the parameters in the head of a device sequence. -/
  | deviceParameters
  /-- After the parameters in the head of a device sequence. -/
  | deviceTail
  /-- In a string. -/
  | string
deriving DecidableEq, Repr

/-- Whether a character is a control that is blank. -/
def isBlankControl (c : Char) : Bool :=
  c ∈ ['\t', '\n', '\x0c', '\r']

/-- Whether a character is seen, or is a control that is blank. -/
def isShown (c : Char) : Bool :=
  (' ' ≤ c && c ≠ '\x7f') || isBlankControl c

/-- Whether a character has the byte in it that ends a string. -/
def endsString (c : Char) : Bool :=
  (String.utf8EncodeChar c).contains 0x9C

namespace Sequence

/-- Whether a blank control suspends the sequence. -/
def isSuspendable : Sequence → Bool
  | escape => true
  | escapeTail => true
  | control => true
  | _ => false

/-- Where the sequence stands after a character that neither begins nor breaks off one. -/
def advance (c : Char) : Sequence → Sequence
  | none => none
  | escape =>
    if c = '[' then control
    else if c = ']' then command
    else if c = 'P' then deviceHead
    else if c ∈ ['X', '^', '_'] then string
    else if ' ' ≤ c ∧ c ≤ '/' then escapeTail
    else if '0' ≤ c ∧ c ≤ '~' then none
    else escape
  | escapeTail => if '0' ≤ c ∧ c ≤ '~' then none else escapeTail
  | control => if '@' ≤ c ∧ c ≤ '~' then none else control
  | command => if c = '\x07' then none else command
  | deviceHead =>
    if ' ' ≤ c ∧ c ≤ '/' then deviceTail
    else if '0' ≤ c ∧ c ≤ '?' then deviceParameters
    else if '@' ≤ c ∧ c ≤ '~' then string
    else deviceHead
  | deviceParameters =>
    if ' ' ≤ c ∧ c ≤ '/' then deviceTail
    else if '<' ≤ c ∧ c ≤ '~' then string
    else deviceParameters
  | deviceTail => if '0' ≤ c ∧ c ≤ '~' then string else deviceTail
  | string => if endsString c then none else string

/-- Where the sequence stands after a character. -/
def next (c : Char) (s : Sequence) : Sequence :=
  if c = '\x1b' then escape
  else if c = '\x18' ∨ c = '\x1a' then none
  else s.advance c

end Sequence

/-- The printable part of characters that follow a place in a sequence, which may be suspended. -/
def printableFrom : Sequence → (suspended : Bool) → List Char → List Char
  | _, _, [] => []
  | s, suspended, c :: cs =>
    if s = .none ∨ suspended then
      if isShown c then
        c :: printableFrom (if '\x7f' < c then .none else s) suspended cs
      else
        printableFrom (s.next c) false cs
    else if s.isSuspendable ∧ isBlankControl c then
      c :: printableFrom s true cs
    else
      printableFrom (s.next c) false cs

/-- The printable part of characters. -/
def printable (cs : List Char) : List Char :=
  printableFrom .none false cs

end Abacus.Text
