import Abacus.Proofs.Encoding
import Abacus.Session
import Mathlib.Data.List.TakeWhile

/-!
# Lines of bytes and lines of characters

A session cuts its input at line feeds while it is bytes, and a script is cut
while it is text.  A line feed is one byte, and no other character has that byte
in its encoding (`eq_lineFeed_of_mem`), so the two cuts fall together.  What ends
a line is blank, so that trimming removes it (`trim_dropReturn`,
`trim_append_lineFeed`).

`byLines` is the induction on the lines of a text.
-/

namespace Abacus.Text

/-! ## The byte of a line feed -/

theorem utf8EncodeChar_lineFeed : String.utf8EncodeChar '\n' = [10] := by
  decide

theorem utf8_append_lineFeed (l cs : List Char) :
    utf8 (l ++ '\n' :: cs) = utf8 l ++ 10 :: utf8 cs := by
  rw [utf8_append, utf8_cons, utf8EncodeChar_lineFeed]
  rfl

theorem ofNat_ne_lineFeed {n : Nat} (above : 10 < n) (below : n < 256) :
    (10 : UInt8) ≠ UInt8.ofNat n := by
  intro same
  have values : 10 = n % 256 := by
    simpa using congrArg UInt8.toNat same
  omega

/-- The byte of a line feed is in the encoding of no other character.  The one byte of a character
below 128 is its code, and all bytes of the others are at least 128. -/
theorem eq_lineFeed_of_mem {c : Char} (mem : 10 ∈ String.utf8EncodeChar c) : c = '\n' := by
  have code : c.val.toNat = 10 := by
    simp only [String.utf8EncodeChar] at mem
    split at mem
    next short =>
      have same : (10 : UInt8) = UInt8.ofNat c.val.toNat := List.mem_singleton.1 mem
      have values : 10 = c.val.toNat % 256 := by
        simpa using congrArg UInt8.toNat same
      omega
    next long =>
      exfalso
      split at mem
      · simp only [List.mem_cons, List.not_mem_nil, or_false] at mem
        rcases mem with same | same <;> exact ofNat_ne_lineFeed (by omega) (by omega) same
      · split at mem
        · simp only [List.mem_cons, List.not_mem_nil, or_false] at mem
          rcases mem with same | same | same <;>
            exact ofNat_ne_lineFeed (by omega) (by omega) same
        · simp only [List.mem_cons, List.not_mem_nil, or_false] at mem
          rcases mem with same | same | same | same <;>
            exact ofNat_ne_lineFeed (by omega) (by omega) same
  exact Char.ext (UInt32.toNat_inj.1 code)

theorem lineFeed_not_mem_utf8 {cs : List Char} (unbroken : '\n' ∉ cs) : 10 ∉ utf8 cs := by
  intro mem
  obtain ⟨c, inside, byte⟩ := List.mem_flatMap.1 mem
  rw [eq_lineFeed_of_mem byte] at inside
  exact unbroken inside

/-! ## Lines of text -/

/-- The characters without a carriage return at their end. -/
def dropReturn : List Char → List Char
  | [] => []
  | ['\r'] => []
  | c :: cs => c :: dropReturn cs

/-- What is dropped is blank. -/
theorem exists_eq_dropReturn_append (cs : List Char) :
    ∃ bs, cs = dropReturn cs ++ bs ∧ ∀ c ∈ bs, isBlank c = true := by
  fun_induction dropReturn cs with
  | case1 => exact ⟨[], rfl, by simp⟩
  | case2 =>
    have blank : isBlank '\r' = true := by decide
    exact ⟨['\r'], rfl, List.forall_mem_singleton.2 blank⟩
  | case3 c cs other ih =>
    obtain ⟨bs, parts, blank⟩ := ih
    exact ⟨bs, congrArg (List.cons c) parts, blank⟩

/-- A line that a line feed ends is a line of the text, but for a carriage return. -/
theorem lines_append_lineFeed {l : List Char} (unbroken : '\n' ∉ l) (cs : List Char) :
    lines (l ++ '\n' :: cs) = dropReturn l :: lines cs := by
  fun_induction dropReturn l with
  | case1 => rfl
  | case2 => rfl
  | case3 c l other ih =>
    simp only [List.mem_cons, not_or] at unbroken
    rw [List.cons_append, lines, ih unbroken.2, consLine]
    · rintro rfl
      exact unbroken.1 rfl
    · rintro rest rfl after
      cases l with
      | nil => exact other rfl rfl
      | cons d l =>
        injection after with same
        exact unbroken.2 (by simp [same])

example : lines "a\r\r\n\nb\r".toList = ["a\r".toList, [], "b\r".toList] := by decide

/-- A last line that nothing ends is a line of the text as it is. -/
theorem lines_of_not_mem {l : List Char} (unbroken : '\n' ∉ l) (nonempty : l ≠ []) :
    lines l = [l] := by
  induction l with
  | nil => exact absurd rfl nonempty
  | cons c l ih =>
    simp only [List.mem_cons, not_or] at unbroken
    have first : lines (c :: l) = consLine c (lines l) := by
      rw [lines]
      · rintro rfl
        exact unbroken.1 rfl
      · rintro rest - rfl
        exact unbroken.2 (by simp)
    rw [first]
    cases l with
    | nil => rfl
    | cons d l => rw [ih unbroken.2 (by simp), consLine]

/-- What holds of the empty text, of a line that nothing ends, and of a line and what follows it
when it holds of that, holds of every text. -/
theorem byLines {P : List Char → Prop} (nil : P [])
    (last : ∀ l, '\n' ∉ l → l ≠ [] → P l)
    (cons : ∀ l cs, '\n' ∉ l → P cs → P (l ++ '\n' :: cs)) (cs : List Char) : P cs := by
  have after : ∀ cs l, '\n' ∉ l → P (l ++ cs) := by
    intro cs
    induction cs with
    | nil =>
      intro l unbroken
      rw [List.append_nil]
      by_cases empty : l = []
      · rw [empty]
        exact nil
      · exact last l unbroken empty
    | cons c cs ih =>
      intro l unbroken
      by_cases ends : c = '\n'
      · rw [ends]
        exact cons l cs unbroken (ih [] (by simp))
      · rw [List.append_cons]
        refine ih (l ++ [c]) ?_
        simp [unbroken, Ne.symm ends]
  exact after cs [] (by simp)

theorem mem_of_mem_dropReturn {c : Char} {l : List Char} (mem : c ∈ dropReturn l) : c ∈ l := by
  obtain ⟨bs, parts, -⟩ := exists_eq_dropReturn_append l
  rw [parts]
  exact List.mem_append_left bs mem

/-- A line holds no line feed. -/
theorem lineFeed_not_mem_of_mem_lines {l cs : List Char} (line : l ∈ lines cs) : '\n' ∉ l := by
  induction cs using byLines with
  | nil => cases line
  | last l' unbroken nonempty =>
    rw [lines_of_not_mem unbroken nonempty, List.mem_singleton] at line
    rwa [line]
  | cons l' cs unbroken ih =>
    rw [lines_append_lineFeed unbroken, List.mem_cons] at line
    rcases line with rfl | later
    · exact fun mem => unbroken (mem_of_mem_dropReturn mem)
    · exact ih later

/-! ## Trimming a line and its end -/

theorem dropWhile_isBlank_eq_nil {bs : List Char} (blank : ∀ c ∈ bs, isBlank c = true) :
    bs.dropWhile isBlank = [] := by
  rw [List.dropWhile_eq_nil_iff]
  exact blank

theorem trimEnd_append_blanks (cs : List Char) {bs : List Char}
    (blank : ∀ c ∈ bs, isBlank c = true) : trimEnd (cs ++ bs) = trimEnd cs := by
  have gone : bs.reverse.dropWhile isBlank = [] :=
    dropWhile_isBlank_eq_nil fun c mem => blank c (List.mem_reverse.1 mem)
  rw [trimEnd, List.reverse_append, List.dropWhile_append, gone, trimEnd]
  rfl

/-- Trimming removes any blanks at the end. -/
theorem trim_append_blanks (cs : List Char) {bs : List Char}
    (blank : ∀ c ∈ bs, isBlank c = true) : trim (cs ++ bs) = trim cs := by
  rw [trim, trim, List.dropWhile_append]
  split
  next empty =>
    rw [dropWhile_isBlank_eq_nil blank, List.isEmpty_iff.1 empty]
  next nonempty => exact trimEnd_append_blanks _ blank

theorem trim_append_lineFeed (l : List Char) : trim (l ++ ['\n']) = trim l := by
  have blank : isBlank '\n' = true := by decide
  exact trim_append_blanks l (List.forall_mem_singleton.2 blank)

/-- Trimming removes what a line loses at its end. -/
theorem trim_dropReturn (l : List Char) : trim (dropReturn l) = trim l := by
  obtain ⟨bs, parts, blank⟩ := exists_eq_dropReturn_append l
  calc
    trim (dropReturn l) = trim (dropReturn l ++ bs) := (trim_append_blanks _ blank).symm
    _ = trim l := by rw [← parts]

end Abacus.Text

/-! ## Lines of bytes -/

namespace Abacus.Session

variable {bs : List UInt8}

theorem firstLine_cons (b : UInt8) (bs : List UInt8) :
    firstLine (b :: bs) = if b = 10 then [b] else b :: firstLine bs := by
  by_cases ends : b = 10 <;> simp [firstLine, ends]

theorem afterLine_cons (b : UInt8) (bs : List UInt8) :
    afterLine (b :: bs) = if b = 10 then bs else afterLine bs := by
  by_cases ends : b = 10 <;> simp [afterLine, ends]

theorem firstLine_ne_nil (nonempty : bs ≠ []) : firstLine bs ≠ [] := by
  cases bs with
  | nil => exact absurd rfl nonempty
  | cons b bs =>
    rw [firstLine_cons]
    split <;> exact List.cons_ne_nil _ _

theorem takeWhile_of_not_mem (unbroken : 10 ∉ bs) (rest : List UInt8) :
    (bs ++ 10 :: rest).takeWhile (· ≠ 10) = bs := by
  rw [List.takeWhile_append_of_pos]
  · simp
  · intro b mem
    simpa using ne_of_mem_of_not_mem mem unbroken

theorem dropWhile_of_not_mem (unbroken : 10 ∉ bs) (rest : List UInt8) :
    (bs ++ 10 :: rest).dropWhile (· ≠ 10) = 10 :: rest := by
  rw [List.dropWhile_append_of_pos]
  · simp
  · intro b mem
    simpa using ne_of_mem_of_not_mem mem unbroken

theorem firstLine_append_lineFeed (unbroken : 10 ∉ bs) (rest : List UInt8) :
    firstLine (bs ++ 10 :: rest) = bs ++ [10] := by
  rw [firstLine, takeWhile_of_not_mem unbroken, dropWhile_of_not_mem unbroken]
  rfl

theorem afterLine_append_lineFeed (unbroken : 10 ∉ bs) (rest : List UInt8) :
    afterLine (bs ++ 10 :: rest) = rest := by
  rw [afterLine, dropWhile_of_not_mem unbroken]
  rfl

theorem afterLine_of_not_mem (unbroken : 10 ∉ bs) : afterLine bs = [] := by
  have gone : bs.dropWhile (· ≠ 10) = [] := by
    rw [List.dropWhile_eq_nil_iff]
    intro b mem
    simpa using ne_of_mem_of_not_mem mem unbroken
  rw [afterLine, gone]
  rfl

theorem firstLine_of_not_mem (unbroken : 10 ∉ bs) : firstLine bs = bs := by
  have parts := firstLine_append_afterLine bs
  rwa [afterLine_of_not_mem unbroken, List.append_nil] at parts

end Abacus.Session
