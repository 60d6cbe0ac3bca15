/-!
# Integer literals

A literal is read in a base that its first characters choose, and underscores
may stand between its digits.

* `0x` or `0X` before the digits means sixteen, `0o` or `0O` eight, and `0b` or
  `0B` two.  Any other leading `0` with something after it means eight as well.
  Otherwise the base is ten.
* The text is not empty, no underscore stands at an end of it, and no two stand
  together.  The check is on the whole text, so `0_7` and `0x_f` are literals.
* Without underscores something is left after the mark of the base, all of it
  digits of that base, and its value is below `2 ^ 63`.

No sign belongs to a literal, so the least 64-bit integer has none.
-/

namespace Abacus.Literal

/-- The number of values that a literal can have: those of a 64-bit integer that are not
negative. -/
def bound : Nat := Nat.pow 2 63

/-- Whether cutting the characters at underscores leaves no empty piece. -/
def separated : List Char → Bool
  | [] => false
  | '_' :: _ => false
  | [_] => true
  | _ :: '_' :: cs => separated cs
  | _ :: c :: cs => separated (c :: cs)

/-- The base of a literal, and its characters after the mark of the base. -/
def radix : List Char → Nat × List Char
  | '0' :: 'x' :: cs => (16, cs)
  | '0' :: 'X' :: cs => (16, cs)
  | '0' :: 'o' :: cs => (8, cs)
  | '0' :: 'O' :: cs => (8, cs)
  | '0' :: 'b' :: cs => (2, cs)
  | '0' :: 'B' :: cs => (2, cs)
  | '0' :: c :: cs => (8, c :: cs)
  | cs => (10, cs)

/-- The value of an ASCII digit or letter as a digit, where letters go on from ten. -/
def digitValue? (c : Char) : Option Nat :=
  if '0' ≤ c ∧ c ≤ '9' then some (c.toNat - '0'.toNat)
  else if 'a' ≤ c ∧ c ≤ 'z' then some (c.toNat - 'a'.toNat + 10)
  else if 'A' ≤ c ∧ c ≤ 'Z' then some (c.toNat - 'A'.toNat + 10)
  else none

/-- The value of a character as a digit of a base. -/
def digit? (base : Nat) (c : Char) : Option Nat :=
  (digitValue? c).filter (· < base)

/-- The number that digits stand for, the most significant one first. -/
def positional (base : Nat) (digits : List Nat) : Nat :=
  digits.foldl (fun n d => n * base + d) 0

/-- The number that characters stand for, if they are digits of the base and there is one. -/
def natural? (base : Nat) : List Char → Option Nat
  | [] => none
  | cs => (cs.mapM (digit? base)).map (positional base)

/-- The value of the characters of a literal. -/
def read? (cs : List Char) : Option Int64 :=
  if separated cs then
    (natural? (radix cs).1 ((radix cs).2.filter (· ≠ '_'))).bind fun n =>
      if n < bound then some (.ofNat n) else none
  else
    none

/-- The value of a literal, or nothing if its text is no literal. -/
def value? (text : String) : Option Int64 :=
  read? text.toList

end Abacus.Literal
