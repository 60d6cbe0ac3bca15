import Abacus.Script
import Abacus.Text.Blank

/-!
# Sessions

A session asks for a line with a prompt, answers it, and asks again.  A line is
what comes up to a line feed, or up to the end of the input.  It is trimmed.  A
blank line is passed over, `exit` and `quit` end the session, and any other
line is run.  The session also ends when there is no more input, and it fails
at a line that is no text.

`run` is a recursion on the number of bytes that are left, since a line takes
at least one of them.
-/

namespace Abacus.Session

/-- What is written before each line is read. -/
def prompt : String := ">> "

/-- What is written when the session is ended by a word. -/
def farewell : String := "Goodbye!\n"

/-- The bytes up to the first line feed, which is one of them. -/
def firstLine (bs : List UInt8) : List UInt8 :=
  bs.takeWhile (· ≠ 10) ++ (bs.dropWhile (· ≠ 10)).take 1

/-- The bytes after the first line feed. -/
def afterLine (bs : List UInt8) : List UInt8 :=
  (bs.dropWhile (· ≠ 10)).drop 1

/-- A line and what follows it are the bytes that were there. -/
theorem firstLine_append_afterLine (bs : List UInt8) : firstLine bs ++ afterLine bs = bs := by
  rw [firstLine, afterLine, List.append_assoc, List.take_append_drop,
    List.takeWhile_append_dropWhile]

/-- A line takes a byte if there is one. -/
theorem length_afterLine_lt (b : UInt8) (bs : List UInt8) :
    (afterLine (b :: bs)).length < (b :: bs).length := by
  have drops : ((b :: bs).dropWhile (· ≠ 10)).length ≤ (b :: bs).length :=
    (List.dropWhile_suffix _).length_le
  rw [afterLine, List.length_drop]
  rw [List.length_cons] at drops ⊢
  omega

/-- Answers a line that was read, and says whether the session goes on. -/
def answer (style : Style) (line : String) : Task Bool :=
  let text := String.ofList (Text.trim line.toList)
  if text = "" then pure true
  else if text = "exit" ∨ text = "quit" then do
    write farewell
    pure false
  else do
    let _ ← runLine style none text
    pure true

/-- Answers the bytes of a line, and says whether the session goes on. -/
def answerBytes (style : Style) (line : List UInt8) : Task Bool :=
  match Text.decode? line with
  | none => throw .notText
  | some text => answer style text

/-- Runs a session on the bytes of its input. -/
def run (style : Style) (input : List UInt8) : Task Unit := do
  write prompt
  match input with
  | [] => write "\n"
  | b :: bs =>
    if ← answerBytes style (firstLine (b :: bs)) then
      run style (afterLine (b :: bs))
termination_by input.length
decreasing_by exact length_afterLine_lt b bs

end Abacus.Session
