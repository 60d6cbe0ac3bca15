import Abacus.Proofs.Transcript

/-!
# Sessions read their input as a stream

A session on some lines and more bytes after them goes through the *rounds* of the
lines, and then it is a session on the bytes, unless one of the lines ended it
(`run_joined_append`).  No bytes come into this but those of the line that is
answered.

Lines that do not end a session leave something whatever comes after them, so what
follows is left after that, and the session ends as it does on what follows alone.
Where one of the lines ends the session, what follows makes no difference on any
console (`run_streams`).
-/

namespace Abacus.Session

open Text

variable {style : Style} {l : List Char}

/-! ## Answers -/

/-- A line that ends a session is answered with a farewell. -/
theorem answer_of_ends (style : Style) (ends : Ends l) :
    answer style (.ofList l) = (do write farewell; pure false) := by
  have nonempty : String.ofList (trim l) ≠ "" := by
    rcases ends with word | word <;> rw [word] <;> decide
  have word : String.ofList (trim l) = "exit" ∨ String.ofList (trim l) = "quit" := ends
  rw [answer, String.toList_ofList, if_neg nonempty, if_pos word]

theorem answerBytes_of_ends (style : Style) (ends : Ends l) :
    answerBytes style (utf8 l) = (do write farewell; pure false) := by
  rw [answerBytes, decode?_utf8]
  exact answer_of_ends style ends

/-- The answer to any bytes leaves a record, and fails only if they are no text. -/
theorem exists_answerBytes_leaves (style : Style) (line : List UInt8) :
    ∃ r, (answerBytes style line).Leaves r ∧
      ((∃ going, r.ending = .ok going) ∨ r.ending = .error .notText) := by
  rw [answerBytes]
  cases decode? line with
  | none => exact ⟨_, .throw .notText, .inr rfl⟩
  | some text =>
    rw [← @String.ofList_toList text]
    dsimp only
    by_cases ends : Ends text.toList
    · rw [answer_of_ends style ends]
      exact ⟨_, (Task.Leaves.write farewell).map fun _ => false, .inl ⟨false, rfl⟩⟩
    · exact ⟨_, answer_leaves style ends, .inl ⟨true, rfl⟩⟩

/-- What holds without input, and before a line when it holds after it, holds of all input. -/
theorem byFirstLine {P : List UInt8 → Prop} (nil : P [])
    (line : ∀ input, input ≠ [] → P (afterLine input) → P input) (input : List UInt8) :
    P input := by
  induction length : input.length using Nat.strongRecOn generalizing input with
  | ind n ih =>
    cases input with
    | nil => exact nil
    | cons b bs =>
      have shorter : (afterLine (b :: bs)).length < n := length ▸ length_afterLine_lt b bs
      exact line (b :: bs) (by simp) (ih _ shorter (afterLine (b :: bs)) rfl)

/-- A session leaves a record, and fails only at bytes that are no text. -/
theorem exists_run_leaves (style : Style) (input : List UInt8) :
    ∃ r, (run style input).Leaves r ∧ (r.ending = .ok () ∨ r.ending = .error .notText) := by
  induction input using byFirstLine with
  | nil => exact ⟨_, run_nil_leaves style, .inl rfl⟩
  | line input nonempty ih =>
    obtain ⟨⟨bytes, text, ending⟩, answered, settles⟩ :=
      exists_answerBytes_leaves style (firstLine input)
    rcases settles with ⟨going, rfl⟩ | rfl
    · cases going with
      | true =>
        obtain ⟨r, rest, ends⟩ := ih
        exact ⟨_, run_leaves_of_firstLine style nonempty answered rest, ends⟩
      | false =>
        rw [run_of_ne_nil style nonempty]
        exact ⟨_, (Task.Leaves.write prompt).bind (answered.bind (.pure ())), .inl rfl⟩
    · rw [run_of_ne_nil style nonempty]
      exact ⟨_, (Task.Leaves.write prompt).bind (answered.bind_error _), .inr rfl⟩

/-! ## Rounds -/

/-- Some lines, with a line feed after each. -/
def joined (lines : List (List UInt8)) : List UInt8 :=
  lines.flatMap (· ++ [10])

/-- Asks for some lines and answers them, up to one that ends the session.  Says whether none
did. -/
def rounds (style : Style) : List (List UInt8) → Task Bool
  | [] => pure true
  | line :: lines => do
    write prompt
    if ← answerBytes style (line ++ [10]) then rounds style lines else pure false

/-- A session goes through the rounds of the lines that come first. -/
theorem run_joined_append (style : Style) {lines : List (List UInt8)}
    (single : ∀ line ∈ lines, 10 ∉ line) (rest : List UInt8) :
    run style (joined lines ++ rest) = (do if ← rounds style lines then run style rest) := by
  induction lines with
  | nil => rfl
  | cons line lines ih =>
    have parts : joined (line :: lines) ++ rest = line ++ 10 :: (joined lines ++ rest) := by
      simp [joined]
    have noByte : 10 ∉ line := single line List.mem_cons_self
    rw [parts, run_of_ne_nil style (by simp), firstLine_append_lineFeed noByte,
      afterLine_append_lineFeed noByte, rounds, bind_assoc]
    refine bind_congr fun _ => ?_
    rw [bind_assoc]
    refine bind_congr fun going => ?_
    cases going with
    | false => rfl
    | true => exact ih fun line mem => single line (List.mem_cons_of_mem _ mem)

/-- Some lines of text, with a line feed after each. -/
def joinedTexts (lines : List (List Char)) : List UInt8 :=
  joined (lines.map utf8)

theorem utf8_append_singleton (l : List Char) : utf8 l ++ [10] = utf8 (l ++ ['\n']) :=
  (utf8_append_lineFeed l []).symm

/-- A line ends a session with its line feed if it does without. -/
theorem ends_append_lineFeed (l : List Char) : Ends (l ++ ['\n']) ↔ Ends l :=
  ends_congr (trim_append_lineFeed l)

/-- The rounds of lines none of which ends the session leave a record and are gone on after. -/
theorem exists_rounds_leaves (style : Style) {lines : List (List Char)}
    (going : ∀ l ∈ lines, ¬ Ends l) :
    ∃ out err, (rounds style (lines.map utf8)).Leaves ⟨out, err, .ok true⟩ := by
  induction lines with
  | nil => exact ⟨#[], "", .pure true⟩
  | cons l lines ih =>
    obtain ⟨out, err, rest⟩ := ih fun l mem => going l (List.mem_cons_of_mem _ mem)
    have goesOn : ¬ Ends (l ++ ['\n']) := by
      rw [ends_append_lineFeed]
      exact going l List.mem_cons_self
    rw [List.map_cons, rounds, utf8_append_singleton]
    have answered := (answerBytes_leaves style goesOn).goOn (v := pure false) rest
    exact ⟨_, _, (Task.Leaves.write prompt).andThen answered⟩

/-- After the rounds of lines one of which ends the session, it does not matter what is gone on
with. -/
theorem rounds_bind_congr (style : Style) {lines : List (List Char)}
    (ends : ∃ l ∈ lines, Ends l) {f g : Bool → Task Unit} (same : f false = g false) :
    (rounds style (lines.map utf8) >>= f) = (rounds style (lines.map utf8) >>= g) := by
  induction lines with
  | nil =>
    obtain ⟨l, mem, -⟩ := ends
    cases mem
  | cons l lines ih =>
    simp only [List.map_cons, rounds, utf8_append_singleton, bind_assoc]
    refine bind_congr fun _ => ?_
    by_cases now : Ends (l ++ ['\n'])
    · simp only [answerBytes_of_ends style now, bind_assoc]
      refine bind_congr fun _ => ?_
      exact same
    · refine bind_congr fun going => ?_
      cases going with
      | false => exact same
      | true =>
        refine ih ?_
        obtain ⟨l', mem, word⟩ := ends
        rcases List.mem_cons.1 mem with rfl | later
        · exact absurd ((ends_append_lineFeed l').2 word) now
        · exact ⟨l', later, word⟩

theorem lineFeed_not_mem_of_mem_map {lines : List (List Char)} (single : ∀ l ∈ lines, '\n' ∉ l) :
    ∀ line ∈ lines.map utf8, 10 ∉ line := by
  intro line mem
  obtain ⟨l, inside, rfl⟩ := List.mem_map.1 mem
  exact lineFeed_not_mem_utf8 (single l inside)

/-- On lines that do not end it and more bytes after them, a session leaves what it leaves on the
lines, but for the last prompt and the end of the line, and then what it leaves on the bytes, and it
ends as it does there: well, or at bytes that are no text.  If one of the lines ends it, it does on
every console what it does on the lines alone. -/
theorem run_streams (style : Style) (lines : List (List Char)) (single : ∀ l ∈ lines, '\n' ∉ l)
    (rest : List UInt8) :
    ((∀ l ∈ lines, ¬ Ends l) → ∃ out err,
      (run style (joinedTexts lines)).record =
        ⟨out ++ encode (prompt ++ "\n"), err, .ok ()⟩ ∧
      (run style (joinedTexts lines ++ rest)).record =
        ⟨out ++ (run style rest).record.out, err ++ (run style rest).record.err,
          (run style rest).record.ending⟩) ∧
    ((run style rest).record.ending = .ok () ∨
      (run style rest).record.ending = .error .notText) ∧
    ((∃ l ∈ lines, Ends l) →
      run style (joinedTexts lines ++ rest) = run style (joinedTexts lines)) := by
  have noByte := lineFeed_not_mem_of_mem_map single
  obtain ⟨r, leaves, settles⟩ := exists_run_leaves style rest
  have alone : run style (joinedTexts lines) =
      (do if ← rounds style (lines.map utf8) then run style []) := by
    rw [← run_joined_append style noByte, List.append_nil, joinedTexts]
  refine ⟨?_, ?_, ?_⟩
  · intro going
    obtain ⟨out, err, answered⟩ := exists_rounds_leaves style going
    refine ⟨out, err, ?_, ?_⟩
    · rw [alone, (answered.goOn (run_nil_leaves style)).record_eq, Record.prepend,
        String.append_empty]
    · rw [joinedTexts, run_joined_append style noByte, leaves.record_eq]
      exact (answered.goOn leaves).record_eq
  · rw [leaves.record_eq]
    exact settles
  · intro ends
    rw [alone, joinedTexts, run_joined_append style noByte]
    exact rounds_bind_congr style ends rfl

/-- Two lines, the second of which is no expression, before one line and a byte that is no text, and
two lines, the second of which ends the session, before that byte. -/
theorem run_streams_before_bad_byte :
    (run .plain (joinedTexts ["1".toList, ")".toList] ++ [55, 10, 255])).record =
      ⟨encode ">> 1\n>> Syntax Error:\n\t-no prefix parse function for ) found\n>> 7\n>> ", "",
        .error .notText⟩ ∧
    run .pretty (joinedTexts ["1".toList, "\texit\r".toList] ++ [255]) =
      run .pretty (joinedTexts ["1".toList, "\texit\r".toList]) := by
  obtain ⟨out, err, alone, both⟩ :=
    (run_streams .plain ["1".toList, ")".toList] (by decide) [55, 10, 255]).1 (by decide +kernel)
  have two : (run .plain (joinedTexts ["1".toList, ")".toList])).record =
      ⟨encode ">> 1\n>> Syntax Error:\n\t-no prefix parse function for ) found\n" ++
        encode (prompt ++ "\n"), "", .ok ()⟩ := by
    decide +kernel
  have rest : (run .plain [55, 10, 255]).record = ⟨encode ">> 7\n>> ", "", .error .notText⟩ := by
    decide +kernel
  rw [alone] at two
  injection two with outs errs
  constructor
  · rw [both, rest, Array.append_left_inj _ |>.1 outs, errs]
    decide +kernel
  · exact (run_streams .pretty ["1".toList, "\texit\r".toList] (by decide) [255]).2.2
      (by decide +kernel)

end Abacus.Session
