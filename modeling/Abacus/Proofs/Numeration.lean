import Abacus.Literal
import Abacus.Proofs.Encoding
import Mathlib.Data.List.Forall2
import Mathlib.Data.Nat.Digits.Defs

/-!
# What literals denote

A text *denotes* a natural number if its underscores only separate, and what
follows the mark of a base is, without underscores, the digits of the number in
that base, the most significant one first (`Denotes`).  The literals are the texts
that denote a number below `2 ^ 63`, and their values are these numbers
(`value?_eq_some_iff`).

*Marks.*  A text is cut into the mark of a base and what follows (`Cut`).  A mark of
two characters goes before a single zero, and a zero by itself is no mark.

*Slices.*  Cutting at bytes is only allowed between characters.  `slice?` finds the
mark at byte offsets, and has no result where an offset falls inside of a
character.  That never happens (`Cut.slice?_eq`), because an offset is only cut at
if ASCII characters were found before it.
-/

namespace Abacus

open Text

/-! ## Slices of a text -/

/-- The slice of a text before a byte offset, if the offset is a position of the text. -/
def Text.before? (text : String) (offset : Nat) : Option String :=
  if String.Pos.Raw.isValid text ⟨offset⟩ then decode? ((encode text).toList.take offset) else none

/-- The slice of a text from a byte offset on, if the offset is a position of the text. -/
def Text.after? (text : String) (offset : Nat) : Option String :=
  if String.Pos.Raw.isValid text ⟨offset⟩ then decode? ((encode text).toList.drop offset) else none

theorem Text.isValid_utf8ByteSize (a b : String) :
    String.Pos.Raw.isValid (a ++ b) ⟨a.utf8ByteSize⟩ = true := by
  rw [String.Pos.Raw.isValid_eq_true_iff, utf8ByteSize_eq_byteLength]
  exact isValid_of_append String.toList_append

theorem Text.before?_append (a b : String) : before? (a ++ b) a.utf8ByteSize = some a := by
  rw [before?, if_pos (isValid_utf8ByteSize a b), toList_encode, String.toList_append, utf8_append,
    utf8ByteSize_eq_byteLength, ← length_utf8, List.take_left, decode?_utf8, String.ofList_toList]

theorem Text.after?_append (a b : String) : after? (a ++ b) a.utf8ByteSize = some b := by
  rw [after?, if_pos (isValid_utf8ByteSize a b), toList_encode, String.toList_append, utf8_append,
    utf8ByteSize_eq_byteLength, ← length_utf8, List.drop_left, decode?_utf8, String.ofList_toList]

/-- A slice is an initial part of the text. -/
theorem Text.exists_append_of_before? {text a : String} {offset : Nat}
    (h : before? text offset = some a) : ∃ b, text = a ++ b := by
  by_cases valid : String.Pos.Raw.isValid text ⟨offset⟩ = true
  · obtain ⟨first, second, rfl, position⟩ :=
      String.Pos.Raw.isValid_iff_exists_append.1 (String.Pos.Raw.isValid_eq_true_iff.1 valid)
    have same : offset = first.utf8ByteSize := congrArg String.Pos.Raw.byteIdx position
    rw [same, before?_append] at h
    cases h
    exact ⟨second, rfl⟩
  · rw [before?, if_neg valid] at h
    cases h

namespace Literal

/-! ## Underscores -/

theorem doubled_cons_iff {c : Char} {cs : List Char} :
    ['_', '_'] <:+: c :: cs ↔ (c = '_' ∧ cs.head? = some '_') ∨ ['_', '_'] <:+: cs := by
  rw [List.infix_cons_iff, List.cons_prefix_cons, eq_comm]
  cases cs with
  | nil => simp
  | cons d ds => simp [List.cons_prefix_cons, eq_comm]

/-- Cutting at underscores leaves no empty piece exactly if no underscore stands at an end and no
two stand together. -/
theorem separated_iff {cs : List Char} :
    separated cs = true ↔
      cs ≠ [] ∧ cs.head? ≠ some '_' ∧ cs.getLast? ≠ some '_' ∧ ¬ ['_', '_'] <:+: cs := by
  induction cs using separated.induct with
  | case1 => simp [separated]
  | case2 cs => simp [separated]
  | case3 c ne =>
    have ne : c ≠ '_' := ne
    simp [separated, doubled_cons_iff, ne]
  | case4 c cs ne ih =>
    have ne : c ≠ '_' := ne
    rw [separated.eq_4 c cs ne, ih, doubled_cons_iff, doubled_cons_iff]
    cases cs with
    | nil => simp
    | cons d ds => simp [ne, and_left_comm]
  | case5 c d cs ne ne' ih =>
    have ne : c ≠ '_' := ne
    have ne' : d ≠ '_' := ne'
    rw [separated.eq_5 c d cs ‹_› ‹_›, ih, doubled_cons_iff (c := c)]
    simp [ne, ne']

/-! ## The mark of a base -/

/-- The marks of bases, and the bases. -/
def marks : List (String × Nat) :=
  [("0x", 16), ("0X", 16), ("0o", 8), ("0O", 8), ("0b", 2), ("0B", 2)]

/-- A text is cut into the mark of a base and what follows the mark. -/
inductive Cut (text : String) : Nat → String → Prop
  /-- The text begins with one of the marks. -/
  | marked {mark : String} {base : Nat} {body : String} : (mark, base) ∈ marks →
      text = mark ++ body → Cut text base body
  /-- It begins with none of them, but with a zero that something follows. -/
  | zero {body : String} : (∀ m ∈ marks, ∀ rest, text ≠ m.1 ++ rest) → text = "0" ++ body →
      body ≠ "" → Cut text 8 body
  /-- It begins with none of them, and with no zero that something follows. -/
  | plain : (∀ m ∈ marks, ∀ rest, text ≠ m.1 ++ rest) →
      (∀ body, text = "0" ++ body → body = "") → Cut text 10 text

/-- The base of a text and the slice after its mark, found at byte offsets. -/
def slice? (text : String) : Option (Nat × String) :=
  match marks.find? fun m => before? text 2 = some m.1 with
  | some m => (after? text 2).map (m.2, ·)
  | none =>
    if 1 < text.utf8ByteSize ∧ text.toList.head? = some '0' then (after? text 1).map (8, ·)
    else some (10, text)

theorem find?_marks_eq_none {text : String}
    (unmarked : ∀ m ∈ marks, ∀ rest, text ≠ m.1 ++ rest) :
    marks.find? (fun m => before? text 2 = some m.1) = none := by
  rw [List.find?_eq_none]
  intro m mem found
  obtain ⟨rest, parts⟩ := exists_append_of_before? (of_decide_eq_true found)
  exact unmarked m mem rest parts

theorem eq_append_ofList {text : String} (as : List Char) {bs : List Char}
    (parts : text.toList = as ++ bs) :
    text = .ofList as ++ .ofList bs := by
  rw [← String.ofList_append, ← parts, String.ofList_toList]

theorem utf8ByteSize_of_mem_marks : ∀ m ∈ marks, m.1.utf8ByteSize = 2 := by
  decide

theorem find?_mem_marks : ∀ m ∈ marks, marks.find? (fun n => some m.1 = some n.1) = some m := by
  decide

/-- Wherever the mark of a base ends, its slices are cut at positions of the text. -/
theorem Cut.slice?_eq {text : String} {base : Nat} {body : String} (h : Cut text base body) :
    slice? text = some (base, body) := by
  cases h with
  | @marked mark _ _ mem parts =>
    subst parts
    have found := before?_append mark body
    have rest := after?_append mark body
    rw [utf8ByteSize_of_mem_marks _ mem] at found rest
    rw [slice?, found, find?_mem_marks _ mem, rest]
    rfl
  | zero unmarked parts more =>
    subst parts
    have long : 1 < ("0" ++ body).utf8ByteSize := by
      rw [String.utf8ByteSize_append]
      have positive : body.utf8ByteSize ≠ 0 := fun zero =>
        more (String.utf8ByteSize_eq_zero_iff.1 zero)
      have one : "0".utf8ByteSize = 1 := rfl
      omega
    have head : ("0" ++ body).toList.head? = some '0' := by rw [String.toList_append]; rfl
    have rest : after? ("0" ++ body) 1 = some body := after?_append "0" body
    rw [slice?, find?_marks_eq_none unmarked]
    simp only [long, head, rest, and_self, if_true, Option.map_some]
  | plain unmarked single =>
    have short : ¬ (1 < text.utf8ByteSize ∧ text.toList.head? = some '0') := by
      rintro ⟨long, head⟩
      obtain ⟨cs, chars⟩ := List.head?_eq_some_iff.1 head
      have parts : text = "0" ++ .ofList cs := eq_append_ofList ['0'] chars
      rw [single _ parts, String.append_empty] at parts
      rw [parts] at long
      exact absurd long (by decide)
    rw [slice?, find?_marks_eq_none unmarked]
    simp only [short, if_false]

/-- The second byte of this text begins a character and the third does not. -/
example : before? "0éx" 2 = none ∧ slice? "0éx" = some (8, "éx") := by
  decide +kernel

theorem Cut.unique {text : String} {base base' : Nat} {body body' : String}
    (h : Cut text base body) (h' : Cut text base' body') : base' = base ∧ body' = body := by
  have same := h'.slice?_eq.symm.trans h.slice?_eq
  simpa using same

theorem toList_of_mem_marks :
    ∀ m ∈ marks, m.1.toList ∈ ['x', 'X', 'o', 'O', 'b', 'B'].map (['0', ·]) := by
  decide

/-- A text begins with no mark if no zero at its start is followed by one of their letters. -/
theorem unmarked_of_chars {text : String}
    (h : ∀ c cs, text.toList = '0' :: c :: cs → c ∉ ['x', 'X', 'o', 'O', 'b', 'B']) :
    ∀ m ∈ marks, ∀ rest, text ≠ m.1 ++ rest := by
  intro m mem rest parts
  obtain ⟨c, letter, mark⟩ := List.mem_map.1 (toList_of_mem_marks m mem)
  refine h c rest.toList ?_ letter
  rw [parts, String.toList_append, ← mark]
  rfl

theorem Cut.of_letter {text : String} {c : Char} {cs : List Char} {base : Nat}
    (chars : text.toList = '0' :: c :: cs) (mem : (.ofList ['0', c], base) ∈ marks) :
    Cut text base (.ofList cs) :=
  .marked mem (eq_append_ofList ['0', c] chars)

/-- The characters of a text are cut as the text is.  The first six alternatives are the marks. -/
theorem cut_of_radix {text : String} {base : Nat} {cs : List Char}
    (h : radix text.toList = (base, cs)) : Cut text base (.ofList cs) := by
  unfold radix at h
  split at h
  iterate 6
    next chars =>
      cases h
      exact .of_letter chars (by decide)
  next c cs x X o O b B chars =>
    cases h
    have unmarked : ∀ m ∈ marks, ∀ rest, text ≠ m.1 ++ rest := by
      refine unmarked_of_chars fun d ds same => ?_
      rw [chars] at same
      cases same
      simpa using ⟨x, X, o, O, b, B⟩
    refine .zero unmarked (eq_append_ofList ['0'] chars) ?_
    simp
  next x X o O b B zero =>
    cases h
    rw [String.ofList_toList]
    refine .plain (unmarked_of_chars fun c cs chars => (zero c cs chars).elim) ?_
    rintro body rfl
    rw [← String.toList_inj]
    cases chars : body.toList with
    | nil => rfl
    | cons c cs => exact (zero c cs (by rw [String.toList_append, chars]; rfl)).elim

theorem cut_iff {text body : String} {base : Nat} :
    Cut text base body ↔ radix text.toList = (base, body.toList) := by
  constructor
  · intro h
    cases cut : radix text.toList with
    | mk base' cs =>
      obtain ⟨rfl, rfl⟩ := h.unique (cut_of_radix cut)
      rw [String.toList_ofList]
  · intro h
    have cut := cut_of_radix h
    rwa [String.ofList_toList] at cut

/-! ## Digits -/

/-- The digits of bases up to thirty-six, with small letters. -/
def numerals : List Char := "0123456789abcdefghijklmnopqrstuvwxyz".toList

/-- The digits of bases up to thirty-six, with capital letters. -/
def capitals : List Char := "0123456789ABCDEFGHIJKLMNOPQRSTUVWXYZ".toList

/-- The character is the digit of a value in a base. -/
def IsDigit (base : Nat) (c : Char) (d : Nat) : Prop :=
  d < base ∧ (numerals[d]? = some c ∨ capitals[d]? = some c)

instance (base : Nat) (c : Char) (d : Nat) : Decidable (IsDigit base c d) :=
  inferInstanceAs (Decidable (_ ∧ _))

theorem digitValue?_numerals : ∀ d < 36,
    numerals[d]?.bind digitValue? = some d ∧ capitals[d]?.bind digitValue? = some d := by
  decide +kernel

theorem numerals_digitValue? : ∀ n < 128, ∀ d ∈ digitValue? (Char.ofNat n),
    numerals[d]? = some (Char.ofNat n) ∨ capitals[d]? = some (Char.ofNat n) := by
  decide +kernel

/-- Only ASCII characters are digits. -/
theorem toNat_lt_of_digitValue? {c : Char} {d : Nat} (h : digitValue? c = some d) :
    c.toNat < 128 := by
  have below (last : Char) (le : c ≤ last) (ascii : last.toNat < 128) : c.toNat < 128 :=
    Nat.lt_of_le_of_lt (UInt32.le_iff_toNat_le.1 le) ascii
  unfold digitValue? at h
  split at h
  next digit => exact below _ digit.2 (by decide)
  next =>
    split at h
    next small => exact below _ small.2 (by decide)
    next =>
      split at h
      next capital => exact below _ capital.2 (by decide)
      next => cases h

theorem digitValue?_eq_some_iff {c : Char} {d : Nat} :
    digitValue? c = some d ↔ numerals[d]? = some c ∨ capitals[d]? = some c := by
  constructor
  · intro h
    have same : Char.ofNat c.toNat = c := Char.ofNat_toNat c
    have found := numerals_digitValue? c.toNat (toNat_lt_of_digitValue? h) d (by rw [same]; exact h)
    rwa [same] at found
  · rintro (h | h)
    · have values := (digitValue?_numerals d (List.getElem?_eq_some_iff.1 h).1).1
      rwa [h] at values
    · have values := (digitValue?_numerals d (List.getElem?_eq_some_iff.1 h).1).2
      rwa [h] at values

theorem digit?_eq_some_iff {base : Nat} {c : Char} {d : Nat} :
    digit? base c = some d ↔ IsDigit base c d := by
  rw [digit?, Option.filter_eq_some_iff, digitValue?_eq_some_iff, decide_eq_true_eq, and_comm]
  rfl

theorem mapM_digit?_eq_some_iff {base : Nat} {cs : List Char} {ds : List Nat} :
    cs.mapM (digit? base) = some ds ↔ List.Forall₂ (IsDigit base) cs ds := by
  induction cs generalizing ds with
  | nil => simp [eq_comm]
  | cons c cs ih =>
    simp only [List.mapM_cons, List.forall₂_cons_left_iff, ← ih, ← digit?_eq_some_iff, bind,
      Option.bind_eq_some_iff, pure, Option.some.injEq]
    constructor
    · rintro ⟨d, digit, ds, digits, rfl⟩
      exact ⟨d, ds, digit, digits, rfl⟩
    · rintro ⟨d, ds, digit, digits, rfl⟩
      exact ⟨d, digit, ds, digits, rfl⟩

theorem positional_eq_ofDigits (base : Nat) (ds : List Nat) :
    positional base ds = Nat.ofDigits base ds.reverse := by
  rw [Nat.ofDigits_eq_foldr, List.foldr_reverse, positional]
  simp only [Nat.cast_id, Nat.mul_comm, Nat.add_comm]

theorem natural?_eq_some_iff {base : Nat} {cs : List Char} {n : Nat} :
    natural? base cs = some n ↔ cs ≠ [] ∧
      ∃ ds, List.Forall₂ (IsDigit base) cs ds ∧ Nat.ofDigits base ds.reverse = n := by
  cases cs with
  | nil => simp [natural?]
  | cons c cs =>
    simp only [natural?, Option.map_eq_some_iff, mapM_digit?_eq_some_iff, positional_eq_ofDigits]
    simp

/-! ## Values -/

/-- The text denotes a natural number. -/
structure Denotes (text : String) (n : Nat) : Prop where
  /-- It is not empty. -/
  nonempty : text ≠ ""
  /-- It does not begin with an underscore. -/
  leading : text.toList.head? ≠ some '_'
  /-- It does not end with one. -/
  trailing : text.toList.getLast? ≠ some '_'
  /-- No two stand together. -/
  single : ¬ ['_', '_'] <:+: text.toList
  /-- What follows the mark of a base is, without underscores, the digits of the number in the base,
  of which there is at least one. -/
  numeral : ∃ base body, Cut text base body ∧ body.toList.filter (· ≠ '_') ≠ [] ∧
    ∃ ds, List.Forall₂ (IsDigit base) (body.toList.filter (· ≠ '_')) ds ∧
      Nat.ofDigits base ds.reverse = n

theorem denotes_iff {text : String} {n : Nat} :
    Denotes text n ↔ separated text.toList = true ∧
      natural? (radix text.toList).1 ((radix text.toList).2.filter (· ≠ '_')) = some n := by
  rw [separated_iff, natural?_eq_some_iff]
  constructor
  · rintro ⟨nonempty, leading, trailing, single, base, body, cut, present, digits⟩
    rw [cut_iff.1 cut]
    exact ⟨⟨by simpa using nonempty, leading, trailing, single⟩, present, digits⟩
  · rintro ⟨⟨nonempty, leading, trailing, single⟩, present, digits⟩
    refine ⟨by simpa using nonempty, leading, trailing, single, _, _, cut_of_radix rfl, ?_⟩
    rw [String.toList_ofList]
    exact ⟨present, digits⟩

theorem Denotes.unique {text : String} {m n : Nat} (h : Denotes text m) (h' : Denotes text n) :
    m = n := by
  have same := (denotes_iff.1 h).2.symm.trans (denotes_iff.1 h').2
  exact Option.some.inj same

theorem value?_eq_some_iff_denotes {text : String} {v : Int64} :
    value? text = some v ↔ ∃ n, Denotes text n ∧ n < bound ∧ Int64.ofNat n = v := by
  rw [value?, read?]
  constructor
  · intro h
    split at h
    next separates =>
      obtain ⟨n, natural, h⟩ := Option.bind_eq_some_iff.1 h
      split at h
      next fits => exact ⟨n, denotes_iff.2 ⟨separates, natural⟩, fits, Option.some.inj h⟩
      next => cases h
    next => cases h
  · rintro ⟨n, denotes, fits, rfl⟩
    obtain ⟨separates, natural⟩ := denotes_iff.1 denotes
    rw [if_pos separates, natural, Option.bind_some, if_pos fits]

/-- A text is a literal of a value exactly if it denotes that value and the value is a 64-bit
integer.  Whatever the text is, its base and digits are slices at positions of the text, and they
are the base and the digits that the value is made of. -/
theorem value?_eq_some_iff (text : String) :
    (∀ v, value? text = some v ↔ ∃ n, Denotes text n ∧ n ≤ 2 ^ 63 - 1 ∧ v.toInt = n) ∧
    ∃ base body, slice? text = some (base, body) ∧ radix text.toList = (base, body.toList) := by
  constructor
  · intro v
    rw [value?_eq_some_iff_denotes]
    have bound_eq : bound = 2 ^ 63 := rfl
    constructor
    · rintro ⟨n, denotes, fits, rfl⟩
      rw [bound_eq] at fits
      exact ⟨n, denotes, Nat.le_sub_one_of_lt fits, Int64.toInt_ofNat_of_lt fits⟩
    · rintro ⟨n, denotes, fits, value⟩
      have fits : n < 2 ^ 63 := by omega
      refine ⟨n, denotes, fits, ?_⟩
      rw [← Int64.toInt_inj, value, Int64.toInt_ofNat_of_lt fits]
  · have cut : Cut text (radix text.toList).1 (.ofList (radix text.toList).2) := cut_of_radix rfl
    exact ⟨_, _, cut.slice?_eq, by rw [String.toList_ofList]⟩

example : value? "0x_fF" = some 255 ∧ value? "0_17" = some 15 ∧ value? "09" = none := by decide

example : value? "9223372036854775807" = some 9223372036854775807 ∧
    value? "9223372036854775808" = none := by
  decide

end Literal

end Abacus
