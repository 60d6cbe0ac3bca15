/-!
# Texts in quotes

A text can be written in quotes so that it ends where they do, takes one line and
shows each of its characters.  Then quotes and backslashes are escaped, and so are
controls and the characters beyond ASCII that are not seen by themselves.

Which characters beyond ASCII are seen is a table of the standard, and a parameter
here.  The only texts that messages put in quotes are numbers, which have none of
them and nothing else that is escaped, so `Cause.message` takes a number as it is.
-/

namespace Abacus.Text

/-- How a character is written in quotes. -/
def escape (seen : Char → Bool) (c : Char) : List Char :=
  if c = '\x00' then ['\\', '0']
  else if c = '\t' then ['\\', 't']
  else if c = '\n' then ['\\', 'n']
  else if c = '\r' then ['\\', 'r']
  else if c = '\x22' ∨ c = '\\' then ['\\', c]
  else if (' ' ≤ c ∧ c ≤ '~') ∨ ('\x7f' < c ∧ seen c) then [c]
  else '\\' :: 'u' :: '\x7b' :: Nat.toDigits 16 c.toNat ++ ['\x7d']

/-- A text in quotes. -/
def inQuotes (seen : Char → Bool) (text : String) : String :=
  "\"" ++ String.ofList (text.toList.flatMap (escape seen)) ++ "\""

/-- A visible character of ASCII is written as it is, unless it has a meaning in quotes. -/
theorem escape_of_le {c : Char} (low : ' ' ≤ c) (high : c ≤ '~') (quote : c ≠ '\x22')
    (backslash : c ≠ '\\') (seen : Char → Bool) : escape seen c = [c] := by
  have visible {d : Char} (control : ¬ ' ' ≤ d) : c ≠ d := fun same => control (same ▸ low)
  rw [escape, if_neg (visible (by decide)), if_neg (visible (by decide)),
    if_neg (visible (by decide)), if_neg (visible (by decide)),
    if_neg (not_or.2 ⟨quote, backslash⟩), if_pos (.inl ⟨low, high⟩)]

/-- A text without characters that are escaped is written as it is. -/
theorem inQuotes_eq {seen : Char → Bool} {text : String}
    (plain : ∀ c ∈ text.toList, escape seen c = [c]) :
    inQuotes seen text = "\"" ++ text ++ "\"" := by
  have same : text.toList.flatMap (escape seen) = text.toList := by
    rw [List.flatMap_def, List.map_congr_left plain, ← List.flatMap_def, List.flatMap_singleton']
  rw [inQuotes, same, String.ofList_toList]

end Abacus.Text
