import Abacus.Proofs.Accounting
import Abacus.Proofs.Labelling
import Abacus.Proofs.Shapes
import Abacus.Proofs.Writing
import Abacus.Text.Quotes

/-!
# The plain form keeps to its lines

The plain form of the faults of a text is made of lines: a heading and one line for
each message.  That these are the lines between its line feeds rests on no message
having a line feed in it.  Messages quote parts of the text, and a text may have any
character in it.  But what they quote is a token, and a line feed is a blank, which
no token has in it (`Cause.Concerns.lineFeed_not_mem`).

The message about a number that is no literal has it in quotes.  A number is made of
letters, digits and underscores, and in quotes no such character is escaped
(`inQuotes_of_isNumber`).

So whatever a line is answered with, the plain style writes whole lines
(`plain_writes_whole_lines`).
-/

namespace Abacus

open Text

/-! ## Texts between line feeds -/

/-- The parts of a text before, between and after its line feeds. -/
def Text.pieces (text : String) : List String :=
  (text.toList.splitOn '\n').map .ofList

/-- Lines that end in line feeds are the pieces of what they are together, and after the last one
there is nothing. -/
theorem Text.pieces_join {ls : List String} (whole : ∀ l ∈ ls, '\n' ∉ l.toList) :
    pieces (String.join (ls.map fun l => l ++ "\n")) = ls ++ [""] := by
  induction ls with
  | nil => rfl
  | cons l ls ih =>
    have chars : (String.join ((l :: ls).map fun l => l ++ "\n")).toList =
        l.toList ++ '\n' :: (String.join (ls.map fun l => l ++ "\n")).toList := by
      rw [List.map_cons, String.join_cons, String.toList_append, String.toList_append,
        List.append_assoc]
      rfl
    have rest := ih fun m mem => whole m (List.mem_cons_of_mem l mem)
    rw [pieces, chars, List.splitOn_append_cons_self_of_not_mem (whole l List.mem_cons_self),
      List.map_cons, String.ofList_toList, List.cons_append, ← rest]
    rfl

namespace Diagnostic

/-- The lines of the plain form: a heading, which the first diagnostic chooses, and the messages. -/
def plainLines (ds : List Diagnostic) : List String :=
  (((ds.head?.map Diagnostic.kind).getD .syntactic).heading ++ ":") ::
    ds.map fun d => "\t-" ++ d.message

theorem plain_eq_join (ds : List Diagnostic) :
    plain ds = String.join ((plainLines ds).map fun l => l ++ "\n") := by
  have colon : ":\n" = ":" ++ "\n" := by decide
  rw [plain, plainLines, List.map_cons, String.join_cons, List.map_map, colon,
    ← String.append_assoc]
  rfl

end Diagnostic

/-! ## What messages quote -/

theorem lineFeed_not_mem_append {a b : String} (first : '\n' ∉ a.toList)
    (second : '\n' ∉ b.toList) : '\n' ∉ (a ++ b).toList := by
  rw [String.toList_append, List.mem_append, not_or]
  exact ⟨first, second⟩

theorem Token.Kind.lineFeed_not_mem_name (kind : Token.Kind) : '\n' ∉ kind.name.toList := by
  cases kind <;> decide

theorem Text.Decimal.lineFeed_not_mem_nat (n : Nat) : '\n' ∉ (nat n).toList := by
  rw [nat, String.toList_ofList]
  exact not_mem_toDigits rfl

theorem Text.Decimal.lineFeed_not_mem_int (n : Int) : '\n' ∉ (int n).toList := by
  rw [int, String.toList_ofList]
  cases n with
  | ofNat n => exact not_mem_toDigits rfl
  | negSucc n =>
    rw [ofInt, List.mem_cons, not_or]
    exact ⟨by decide, not_mem_toDigits rfl⟩

/-- There is no line feed in what is said of a token without one. -/
theorem Cause.Concerns.lineFeed_not_mem {c : Cause} {t : Token} (h : c.Concerns t)
    (visible : '\n' ∉ t.text.toList) : '\n' ∉ c.message.toList := by
  cases c with
  | illegal text =>
    obtain ⟨-, rfl⟩ := h
    exact lineFeed_not_mem_append (by decide) visible
  | noOperand found =>
    exact lineFeed_not_mem_append
      (lineFeed_not_mem_append (by decide) found.lineFeed_not_mem_name) (by decide)
  | badLiteral text =>
    obtain ⟨-, rfl⟩ := h
    exact lineFeed_not_mem_append (lineFeed_not_mem_append (by decide) visible) (by decide)
  | unclosed found =>
    exact lineFeed_not_mem_append
      (lineFeed_not_mem_append (by decide) found.lineFeed_not_mem_name) (by decide)
  | tooDeep => decide
  | surplus count => exact lineFeed_not_mem_append (by decide) (Decimal.lineFeed_not_mem_nat count)

/-- There is no line feed in a token. -/
theorem lineFeed_not_mem_of_mem_scan {source : String} {t : Token}
    (mem : t ∈ (Cursor.ofString source).scan) : '\n' ∉ t.text.toList := by
  rcases List.mem_append.1 mem with token | last
  · intro inside
    have lexeme := (Cursor.tokens_tiles 0 source.toList).isLexeme t token
    have visible := lexeme.isBlank_eq_false '\n' inside
    cases visible
  · cases List.mem_singleton.1 last
    exact List.not_mem_nil

/-! ## Numbers in quotes -/

/-- A number is made of letters, digits and underscores. -/
theorem isWordChar_of_isNumber {cs : List Char} (number : IsPlainNumber cs ∨ IsBasedNumber cs)
    {c : Char} (mem : c ∈ cs) : isWordChar c = true := by
  rcases number with ⟨first, more, rfl, digit, numerals⟩ | ⟨letter, more, rfl, base, word⟩
  · rcases List.mem_cons.1 mem with rfl | later
    · exact isWordChar_iff.2 (.inr (.inl digit))
    · exact isWordChar_iff.2 (.inr (numerals c later))
  · rcases List.mem_cons.1 mem with rfl | later
    · rfl
    · rcases List.mem_cons.1 later with rfl | rest
      · exact isWordChar_of_isBaseLetter (isBaseLetter_iff.2 base)
      · exact isWordChar_iff.2 (word c rest)

/-- No letter, digit or underscore is escaped. -/
theorem escape_of_isWordChar {c : Char} (word : isWordChar c = true) (seen : Char → Bool) :
    escape seen c = [c] := by
  obtain ⟨low, high⟩ := toNat_of_isWordChar word
  have space : ' '.toNat ≤ c.toNat := Nat.le_trans (by decide) low
  have tilde : c.toNat ≤ '~'.toNat := Nat.le_trans high (by decide)
  refine escape_of_le ?_ ?_ ?_ ?_ seen
  · exact UInt32.le_iff_toNat_le.2 space
  · exact UInt32.le_iff_toNat_le.2 tilde
  · rintro rfl
    cases word
  · rintro rfl
    cases word

/-- A number is quoted as it is. -/
theorem inQuotes_of_isNumber {text : String}
    (number : IsPlainNumber text.toList ∨ IsBasedNumber text.toList) (seen : Char → Bool) :
    inQuotes seen text = "\"" ++ text ++ "\"" :=
  inQuotes_eq fun _ mem => escape_of_isWordChar (isWordChar_of_isNumber number mem) seen

/-- Only a number that is no literal could not be parsed. -/
theorem exists_badLiteral_of_prefix {c : Cause}
    (message : "could not parse".toList <+: c.message.toList) : ∃ text, c = .badLiteral text := by
  have quotes : Quotes "could not parse" "" c.message := quotes_iff.2 ⟨message, List.nil_suffix⟩
  have initial : c.initial = 'c' := quotes.initial_eq (by decide)
  cases c with
  | badLiteral text => exact ⟨text, rfl⟩
  | illegal | noOperand | unclosed | tooDeep | surplus => cases initial

/-! ## Lines that are written -/

/-- The plain form of the faults of a text has the heading for usage exactly if there is a single
fault and it is one of usage. -/
theorem plainLines_of_interpret {source : String} {fs : List Fault}
    (answer : interpret source = .error fs) :
    Diagnostic.plainLines (fs.map Fault.diagnostic) =
      (if fs.map (·.diagnostic.kind) = [.usage] then "Usage Error:" else "Syntax Error:") ::
        fs.map fun f => "\t-" ++ f.diagnostic.message := by
  obtain ⟨way, answers⟩ := exists_answersBy source
  cases answers with
  | blank other => simp [answer] at other
  | value other => simp [answer] at other
  | failure other => simp [answer] at other
  | faulty told nonempty syntactic =>
    rw [answer] at told
    cases told
    obtain ⟨f, fs, faults⟩ := List.exists_cons_of_ne_nil nonempty
    rw [faults] at syntactic ⊢
    have kind : f.diagnostic.kind = .syntactic := syntactic f List.mem_cons_self
    simp [Diagnostic.plainLines, kind, Diagnostic.Kind.heading]
  | @surplus fault second told _ _ _ usage _ _ _ =>
    rw [answer] at told
    cases told
    simp [Diagnostic.plainLines, usage, Diagnostic.Kind.heading]

/-- There is no line feed in the message of a fault that a text is answered with. -/
theorem lineFeed_not_mem_message {source : String} {fs : List Fault}
    (answer : interpret source = .error fs) {f : Fault} (mem : f ∈ fs) :
    '\n' ∉ f.diagnostic.message.toList := by
  obtain ⟨t, scanned, -, concerns⟩ := exists_isAt_of_interpret answer mem
  exact concerns.lineFeed_not_mem (lineFeed_not_mem_of_mem_scan scanned)

/-- The pieces of the plain form of faults are its lines. -/
theorem pieces_plain {source : String} {fs : List Fault} (answer : interpret source = .error fs) :
    pieces (Diagnostic.plain (fs.map Fault.diagnostic)) =
      Diagnostic.plainLines (fs.map Fault.diagnostic) ++ [""] := by
  rw [Diagnostic.plain_eq_join]
  refine pieces_join ?_
  intro l mem
  rw [plainLines_of_interpret answer] at mem
  rcases List.mem_cons.1 mem with rfl | later
  · split <;> decide
  · obtain ⟨f, inside, rfl⟩ := List.mem_map.1 later
    exact lineFeed_not_mem_append (by decide) (lineFeed_not_mem_message answer inside)

/-- The answer to a text is a line. -/
theorem lineFeed_not_mem_answer {source : String} {value : Answer}
    (answer : interpret source = .ok (some value)) : '\n' ∉ value.text.toList := by
  obtain ⟨way, answers⟩ := exists_answersBy source
  cases answers with
  | blank other => simp [answer] at other
  | faulty other => simp [answer] at other
  | surplus other => simp [answer] at other
  | @value n told =>
    rw [answer] at told
    cases told
    exact Decimal.lineFeed_not_mem_int n.toInt
  | @failure error told message =>
    rw [answer] at told
    cases told
    rw [Answer.text, message]
    decide

/-- The message of a fault has the number that it is about in quotes: as it is, and as it would be
written there with escapes. -/
def Fault.QuotesNumber (source : String) (f : Fault) : Prop :=
  ∃ t ∈ (Cursor.ofString source).scan, t.kind = .number ∧ t.span = f.diagnostic.span ∧
    f.diagnostic.message = "could not parse \"" ++ t.text ++ "\" as integer" ∧
    ∀ seen, f.diagnostic.message = "could not parse " ++ inQuotes seen t.text ++ " as integer"

theorem quotesNumber_of_prefix {source : String} {fs : List Fault}
    (answer : interpret source = .error fs) {f : Fault} (mem : f ∈ fs)
    (message : "could not parse".toList <+: f.diagnostic.message.toList) :
    f.QuotesNumber source := by
  obtain ⟨text, cause⟩ := exists_badLiteral_of_prefix (c := f.cause) message
  obtain ⟨t, scanned, place, concerns⟩ := exists_isAt_of_interpret answer mem
  rw [cause] at concerns
  obtain ⟨kind, rfl⟩ := concerns
  have verbatim : f.diagnostic.message = "could not parse \"" ++ t.text ++ "\" as integer" :=
    congrArg Cause.message cause
  refine ⟨t, scanned, kind, place.symm, verbatim, ?_⟩
  intro seen
  have number := (Cursor.shaped_of_mem_scan scanned).number.1 kind
  have before : "could not parse \"" = "could not parse " ++ "\"" := by decide
  have after : "\" as integer" = "\"" ++ " as integer" := by decide
  rw [verbatim, inQuotes_of_isNumber number, before, after]
  simp only [String.append_assoc]

/-- The plain form of the faults that a text is answered with is a heading and a line for each
message, and the message about a literal has it in quotes.  So in the plain style a line writes
whole lines whatever it is answered with: none if it is blank, and one if it has an answer. -/
theorem plain_writes_whole_lines (source : String) :
    (∀ fs, interpret source = .error fs →
      pieces (Diagnostic.plain (fs.map Fault.diagnostic)) =
        (if fs.map (·.diagnostic.kind) = [.usage] then "Usage Error:" else "Syntax Error:") ::
          fs.map (fun f => "\t-" ++ f.diagnostic.message) ++ [""] ∧
      ∀ f ∈ fs, '\n' ∉ f.diagnostic.message.toList ∧
        ("could not parse".toList <+: f.diagnostic.message.toList → f.QuotesNumber source)) ∧
    ∀ name?, ∃ text ls,
      (runLine .plain name? source).Puts (isWell (interpret source)) (encode text) ∧
      pieces text = ls ++ [""] ∧ (ls = [] ↔ ∀ c ∈ source.toList, isBlank c = true) ∧
      ∀ answer, interpret source = .ok (some answer) → ls = [answer.text] := by
  constructor
  · intro fs answer
    refine ⟨?_, fun f mem => ⟨lineFeed_not_mem_message answer mem,
      quotesNumber_of_prefix answer mem⟩⟩
    rw [pieces_plain answer, plainLines_of_interpret answer]
  · intro name?
    have puts := (runLine_leaves .plain name? source).puts
    rw [← interpret_eq_ok_none_iff]
    cases answer : interpret source with
    | error fs =>
      rw [answer] at puts
      exact ⟨_, _, puts, pieces_plain answer, by simp [Diagnostic.plainLines], by simp⟩
    | ok answer? =>
      cases answer? with
      | none =>
        rw [answer] at puts
        exact ⟨_, [], puts, @pieces_join [] (by simp), by simp, by simp⟩
      | some value =>
        rw [answer] at puts
        have pieces : pieces (value.text ++ "\n") = [value.text] ++ [""] := by
          rw [← pieces_join (by simpa using lineFeed_not_mem_answer answer), List.map_singleton,
            String.join_cons, String.join_nil, String.append_empty]
        exact ⟨_, [value.text], puts, pieces, by simp, by simp⟩

/-- A bad literal, and an illegal character that would be escaped in quotes. -/
theorem plain_writes_whole_lines_beside_backslash :
    let bad : Fault := ⟨.badLiteral "08", ⟨0, 2⟩⟩
    let fs : List Fault := [bad, ⟨.illegal "\\", ⟨3, 4⟩⟩]
    interpret "08 \\" = .error fs ∧
      pieces (Diagnostic.plain (fs.map Fault.diagnostic)) =
        ["Syntax Error:", "\t-could not parse \"08\" as integer", "\t-Illegal token: \\", ""] ∧
      "could not parse".toList <+: bad.diagnostic.message.toList ∧ bad.QuotesNumber "08 \\" := by
  intro bad fs
  have answer : interpret "08 \\" = .error fs := by decide +kernel
  have parsing : "could not parse".toList <+: bad.diagnostic.message.toList := by decide +kernel
  obtain ⟨lines, messages⟩ := (plain_writes_whole_lines "08 \\").1 fs answer
  have quotes := (messages bad List.mem_cons_self).2 parsing
  exact ⟨answer, lines.trans (by decide +kernel), parsing, quotes⟩

end Abacus
