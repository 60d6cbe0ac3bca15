import Abacus.Proofs.Writing

/-!
# Scripts run one after another

Two scripts put together with a line feed between them write what the one writes
and then what the other writes, and all is well with them if it is with both
(`runScript_append`).

Their lines are not put together like that.  The line feed makes an empty line out
of nothing where the first script is empty or ends in a line feed already, and it
takes a carriage return from the last line of the first script.  But what a script
writes depends on its *visible* lines only, trimmed, and not on the blank ones.  The
visible lines are put together (`visible_lines_append`).
-/

namespace Abacus

open Text

/-! ## Visible lines -/

/-- The lines that are not blank, trimmed. -/
def visible (ls : List (List Char)) : List (List Char) :=
  (ls.map trim).filter (· ≠ [])

theorem visible_cons_of_blank {l : List Char} (blank : trim l = []) (ls : List (List Char)) :
    visible (l :: ls) = visible ls := by
  rw [visible, List.map_cons, blank, List.filter_cons_of_neg (by simp), visible]

theorem visible_cons_of_ne_nil {l : List Char} (nonempty : trim l ≠ []) (ls : List (List Char)) :
    visible (l :: ls) = trim l :: visible ls := by
  rw [visible, List.map_cons, List.filter_cons_of_pos (by simpa using nonempty), visible]

theorem visible_append (ls ms : List (List Char)) :
    visible (ls ++ ms) = visible ls ++ visible ms := by
  rw [visible, List.map_append, List.filter_append, visible, visible]

theorem visible_singleton_congr {l m : List Char} (same : trim l = trim m) :
    visible [l] = visible [m] := by
  rw [visible, visible, List.map_singleton, List.map_singleton, same]

theorem visible_lines_append (as bs : List Char) :
    visible (lines (as ++ '\n' :: bs)) = visible (lines as) ++ visible (lines bs) := by
  induction as using byLines with
  | nil => exact visible_cons_of_blank rfl (lines bs)
  | last l unbroken nonempty =>
    rw [lines_append_lineFeed unbroken, lines_of_not_mem unbroken nonempty,
      ← List.singleton_append,
      visible_append, visible_singleton_congr (trim_dropReturn l)]
  | cons l cs unbroken ih =>
    rw [List.append_assoc, List.cons_append, lines_append_lineFeed unbroken,
      lines_append_lineFeed unbroken, ← List.singleton_append, visible_append, ih,
      ← List.append_assoc, ← visible_append, List.singleton_append]

/-! ## What lines write -/

theorem Style.lineTexts_append (style : Style) (xs ys : List String) :
    style.lineTexts (xs ++ ys) = style.lineTexts xs ++ style.lineTexts ys := by
  induction xs with
  | nil => exact Array.empty_append.symm
  | cons x xs ih =>
    show encode _ ++ style.lineTexts (xs ++ ys) = encode _ ++ style.lineTexts xs ++ _
    rw [ih, Array.append_assoc]

/-- Blank lines write nothing, and the others what they write trimmed. -/
theorem Style.lineTexts_visible (style : Style) (ls : List (List Char)) :
    style.lineTexts ((visible ls).map .ofList) = style.lineTexts (ls.map .ofList) := by
  induction ls with
  | nil => rfl
  | cons l ls ih =>
    show _ = encode (style.text (interpret (.ofList l))) ++ style.lineTexts (ls.map .ofList)
    rw [← style.text_interpret_trim l, ← ih]
    by_cases blank : trim l = []
    · have nothing : style.text (interpret (.ofList [])) = "" := by
        rw [String.ofList_nil, interpret_empty]
        cases style <;> rfl
      rw [visible_cons_of_blank blank, blank, nothing]
      exact Array.empty_append.symm
    · rw [visible_cons_of_ne_nil blank]
      rfl

theorem isWell_interpret_trim (l : List Char) :
    isWell (interpret (.ofList (trim l))) = isWell (interpret (.ofList l)) := by
  apply isWell_interpret_congr
  rw [String.toList_ofList, String.toList_ofList, bareTokens_trim]

/-- All is well with lines if it is with the visible ones. -/
theorem all_isWell_visible (ls : List (List Char)) :
    ((visible ls).all fun l => isWell (interpret (.ofList l))) =
      ls.all fun l => isWell (interpret (.ofList l)) := by
  induction ls with
  | nil => rfl
  | cons l ls ih =>
    rw [List.all_cons, ← isWell_interpret_trim l, ← ih]
    by_cases blank : trim l = []
    · rw [visible_cons_of_blank blank, blank, String.ofList_nil, interpret_empty]
      rfl
    · rw [visible_cons_of_ne_nil blank, List.all_cons]

/-! ## Scripts -/

theorem visible_lines_joined (a b : String) :
    visible (lines (a ++ "\n" ++ b).toList) =
      visible (lines a.toList) ++ visible (lines b.toList) := by
  rw [String.toList_append, String.toList_append, List.append_assoc]
  exact visible_lines_append a.toList b.toList

theorem Style.lineTexts_scriptLines_joined (style : Style) (a b : String) :
    style.lineTexts (scriptLines (a ++ "\n" ++ b)) =
      style.lineTexts (scriptLines a) ++ style.lineTexts (scriptLines b) := by
  rw [scriptLines, ← style.lineTexts_visible, visible_lines_joined, List.map_append,
    style.lineTexts_append, style.lineTexts_visible, style.lineTexts_visible, scriptLines,
    scriptLines]

theorem all_isWell_scriptLines_joined (a b : String) :
    ((scriptLines (a ++ "\n" ++ b)).all fun s => isWell (interpret s)) =
      (((scriptLines a).all fun s => isWell (interpret s)) &&
        (scriptLines b).all fun s => isWell (interpret s)) := by
  simp only [scriptLines, List.all_map, Function.comp_def]
  rw [← all_isWell_visible, visible_lines_joined, List.all_append, all_isWell_visible,
    all_isWell_visible]

/-- What a script leaves where there is no end to the room. -/
theorem record_runScript (style : Style) (name? : Option String) (source : String) :
    (runScript style name? source).record =
      ⟨style.lineTexts (scriptLines source),
        style.lineNotes (name?.getD defaultScriptName) 1 (scriptLines source),
        .ok ((scriptLines source).all fun s => isWell (interpret s))⟩ := by
  rw [Task.record, Task.recordOn, runScript_of_fits style name? source (k := .endless) rfl]
  simp [Console.put, Console.hear, Console.endless]

/-- Two scripts with a line feed between them write what the one writes and then what the other
writes, and all is well with them if it is with both. -/
theorem runScript_append (style : Style) (name? nameA? nameB? : Option String) (a b : String) :
    ∃ wellA wellB,
      (runScript style nameA? a).record.ending = .ok wellA ∧
      (runScript style nameB? b).record.ending = .ok wellB ∧
      (runScript style name? (a ++ "\n" ++ b)).record.ending = .ok (wellA && wellB) ∧
      (runScript style name? (a ++ "\n" ++ b)).record.out =
        (runScript style nameA? a).record.out ++ (runScript style nameB? b).record.out := by
  rw [record_runScript, record_runScript, record_runScript]
  refine ⟨_, _, rfl, rfl, ?_, style.lineTexts_scriptLines_joined a b⟩
  exact congrArg Except.ok (all_isWell_scriptLines_joined a b)

/-- The carriage return ends the line of the first script, and is no part of the joined one. -/
example : scriptLines "1 +\r" = ["1 +\r"] ∧
    scriptLines ("1 +\r" ++ "\n" ++ "2") = ["1 +", "2"] := by
  decide +kernel

end Abacus
