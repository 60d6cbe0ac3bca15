import Abacus.Proofs.Writing

/-!
# Sessions and scripts agree

A session and a script cut a text into lines in ways of their own.  A session
takes the bytes up to a line feed and trims the text that they are.  A script
takes what comes before a line feed, or before a carriage return and line feed,
and trims nothing.  In the plain style this makes no difference: a session that
no line ends writes a prompt and what the script writes, line by line, and a
last prompt (`run_agrees_with_runScript`).

The induction is on the lines of the text.  A step is one round of the session,
and the line that it reads trims to what a line of the script trims to.
-/

namespace Abacus.Session

/-- A line that ends a session. -/
def Ends (line : List Char) : Prop :=
  String.ofList (Text.trim line) = "exit" ∨ String.ofList (Text.trim line) = "quit"

instance (line : List Char) : Decidable (Ends line) :=
  inferInstanceAs (Decidable (_ ∨ _))

/-- What a session writes that answers lines with these bytes and then has no more of them. -/
def transcript (answers : List (Array UInt8)) : Array UInt8 :=
  answers.foldr (fun answer rest => Text.encode prompt ++ (answer ++ rest))
    (Text.encode (prompt ++ "\n"))

/-- What each line of a text writes when it is run as a script of its own. -/
def lineOutputs (name? : Option String) (text : String) : List (Array UInt8) :=
  (scriptLines text).map fun line => (runScript .plain name? line).output

/-! ## One round -/

variable {l : List Char}

/-- A line that does not end a session leaves what running it leaves. -/
theorem answer_leaves (style : Style) (going : ¬ Ends l) :
    (answer style (.ofList l)).Leaves ⟨Text.encode (style.text (interpret (.ofList l))),
      style.notes none (.ofList (Text.trim l)) (interpret (.ofList (Text.trim l))),
      .ok true⟩ := by
  rw [answer, String.toList_ofList, ← style.text_interpret_trim l]
  by_cases blank : String.ofList (Text.trim l) = ""
  · rw [blank, interpret_empty]
    cases style <;> exact .pure true
  · have goesOn : ¬ (String.ofList (Text.trim l) = "exit" ∨
        String.ofList (Text.trim l) = "quit") := going
    rw [if_neg blank, if_neg goesOn]
    exact (runLine_leaves style none (.ofList (Text.trim l))).map fun _ => true

theorem answerBytes_leaves (style : Style) (going : ¬ Ends l) :
    (answerBytes style (Text.utf8 l)).Leaves ⟨Text.encode (style.text (interpret (.ofList l))),
      style.notes none (.ofList (Text.trim l)) (interpret (.ofList (Text.trim l))),
      .ok true⟩ := by
  rw [answerBytes, Text.decode?_utf8]
  exact answer_leaves style going

theorem run_nil_leaves (style : Style) :
    (run style []).Leaves ⟨Text.encode (prompt ++ "\n"), "", .ok ()⟩ := by
  rw [run, Text.encode_append]
  exact (Task.Leaves.write prompt).andThen (.write "\n")

/-- A round of a session: a prompt, the answer to a line, and the rounds on what follows it. -/
theorem run_of_ne_nil (style : Style) {input : List UInt8} (nonempty : input ≠ []) :
    run style input = (do
      write prompt
      if ← answerBytes style (firstLine input) then run style (afterLine input)) := by
  cases input with
  | nil => exact absurd rfl nonempty
  | cons b bs => rw [run]

/-- A round that the session goes on after leaves what it does and what the rest does. -/
theorem run_leaves_of_firstLine (style : Style) {input : List UInt8} (nonempty : input ≠ [])
    {bytes : Array UInt8} {text : String} {r : Record Unit}
    (first : (answerBytes style (firstLine input)).Leaves ⟨bytes, text, .ok true⟩)
    (rest : (run style (afterLine input)).Leaves r) :
    (run style input).Leaves ((r.prepend bytes text).prepend (Text.encode prompt) "") := by
  rw [run_of_ne_nil style nonempty]
  exact (Task.Leaves.write prompt).andThen (first.goOn rest)

/-! ## All rounds -/

theorem ends_congr {as bs : List Char} (same : Text.trim as = Text.trim bs) :
    Ends as ↔ Ends bs := by
  rw [Ends, Ends, same]

theorem text_interpret_of_trim_eq (style : Style) {as bs : List Char}
    (same : Text.trim as = Text.trim bs) :
    style.text (interpret (.ofList as)) = style.text (interpret (.ofList bs)) := by
  rw [← style.text_interpret_trim as, same, style.text_interpret_trim bs]

theorem utf8_ne_nil (nonempty : l ≠ []) : Text.utf8 l ≠ [] := by
  cases l with
  | nil => exact absurd rfl nonempty
  | cons c l => simp

/-- A round in the plain style, which notes nothing. -/
theorem run_plain_leaves_of_firstLine {input : List UInt8} {bytes : Array UInt8}
    (nonempty : input ≠ []) (first : firstLine input = Text.utf8 l) (going : ¬ Ends l)
    (rest : (run .plain (afterLine input)).Leaves ⟨bytes, "", .ok ()⟩) :
    (run .plain input).Leaves
      ⟨Text.encode prompt ++ (Text.encode (plainText (interpret (.ofList l))) ++ bytes), "",
        .ok ()⟩ := by
  have answered : (answerBytes .plain (firstLine input)).Leaves
      ⟨Text.encode (plainText (interpret (.ofList l))), "", .ok true⟩ := by
    rw [first]
    exact answerBytes_leaves .plain going
  exact run_leaves_of_firstLine .plain nonempty answered rest

/-- A session reads a line with its end, which trimming removes, so that the answers are those to
the lines of the text. -/
theorem run_plain_leaves (cs : List Char) (going : ∀ l ∈ Text.lines cs, ¬ Ends l) :
    (run .plain (Text.utf8 cs)).Leaves
      ⟨transcript
        ((Text.lines cs).map fun l => Text.encode (plainText (interpret (.ofList l)))), "",
        .ok ()⟩ := by
  induction cs using Text.byLines with
  | nil => exact run_nil_leaves .plain
  | last l unbroken nonempty =>
    have noByte : 10 ∉ Text.utf8 l := Text.lineFeed_not_mem_utf8 unbroken
    rw [Text.lines_of_not_mem unbroken nonempty] at going ⊢
    refine run_plain_leaves_of_firstLine (utf8_ne_nil nonempty) (firstLine_of_not_mem noByte)
      (going l List.mem_cons_self) ?_
    rw [afterLine_of_not_mem noByte]
    exact run_nil_leaves .plain
  | cons l cs unbroken ih =>
    have noByte : 10 ∉ Text.utf8 l := Text.lineFeed_not_mem_utf8 unbroken
    have bytes : Text.utf8 (l ++ '\n' :: cs) = Text.utf8 l ++ 10 :: Text.utf8 cs :=
      Text.utf8_append_lineFeed l cs
    have first : firstLine (Text.utf8 (l ++ '\n' :: cs)) = Text.utf8 (l ++ ['\n']) := by
      rw [bytes, firstLine_append_lineFeed noByte, Text.utf8_append_lineFeed l []]
      rfl
    have same : Text.trim (Text.dropReturn l) = Text.trim (l ++ ['\n']) := by
      rw [Text.trim_dropReturn, Text.trim_append_lineFeed]
    have text := text_interpret_of_trim_eq .plain same
    simp only [Style.text_plain] at text
    rw [Text.lines_append_lineFeed unbroken] at going ⊢
    rw [List.map_cons, text]
    refine run_plain_leaves_of_firstLine (utf8_ne_nil (by simp)) first ?_ ?_
    · rw [← ends_congr same]
      exact going _ List.mem_cons_self
    · rw [bytes, afterLine_append_lineFeed noByte]
      exact ih fun l mem => going l (List.mem_cons_of_mem _ mem)

theorem run_puts (cs : List Char) (going : ∀ l ∈ Text.lines cs, ¬ Ends l) :
    (run .plain (Text.utf8 cs)).Puts ()
      (transcript
        ((Text.lines cs).map fun l => Text.encode (plainText (interpret (.ofList l))))) :=
  (run_plain_leaves cs going).puts

/-! ## The text as a script -/

theorem lineOutputs_eq (name? : Option String) (text : String) :
    lineOutputs name? text =
      (Text.lines text.toList).map fun l => Text.encode (plainText (interpret (.ofList l))) := by
  rw [lineOutputs, scriptLines, List.map_map]
  apply List.map_congr_left
  intro l mem
  exact output_runScript_line name? (Text.lineFeed_not_mem_of_mem_lines mem)

/-- A script writes what its lines write, and a session on the same text that no line ends, on a
console with room for it, ends well and writes that with a prompt before each line and after the
last. -/
theorem run_agrees_with_runScript (name? : Option String) (text : String)
    (going : ∀ line ∈ scriptLines text, ¬ Ends line.toList) (k : Console)
    (room : k.fits (transcript (lineOutputs name? text)).size = true) :
    run .plain (Text.encode text).toList k =
        .ok () (k.put (transcript (lineOutputs name? text))) ∧
      (runScript .plain name? text).output = (lineOutputs name? text).foldr (· ++ ·) #[] := by
  have outputs := lineOutputs_eq name? text
  constructor
  · have lines : ∀ l ∈ Text.lines text.toList, ¬ Ends l := by
      intro l mem
      have here := going (.ofList l) (List.mem_map_of_mem mem)
      rwa [String.toList_ofList] at here
    rw [outputs] at room ⊢
    rw [Text.toList_encode]
    exact run_puts text.toList lines k room
  · rw [(runScript_puts name? text).output_eq, outputs, scriptLines, Style.lineTexts,
      List.foldr_map, List.foldr_map]
    rfl

/-- The lines end in three ways here, one is blank, and one is no expression. -/
theorem run_agrees_with_runScript_mixed :
    run .plain (Text.encode "1+2 \r\n\u2003\n\t)\r").toList .endless =
      .ok () (Console.endless.put (Text.encode
        ">> 3\n>> >> Syntax Error:\n\t-no prefix parse function for ) found\n>> \n")) := by
  have written : transcript (lineOutputs none "1+2 \r\n\u2003\n\t)\r") = Text.encode
      ">> 3\n>> >> Syntax Error:\n\t-no prefix parse function for ) found\n>> \n" := by
    decide +kernel
  rw [← written]
  exact (run_agrees_with_runScript none "1+2 \r\n\u2003\n\t)\r" (by decide +kernel) .endless
    (Console.fits_of_room?_eq_none rfl _)).1

end Abacus.Session
