import Abacus.Proofs.Streaming

/-!
# Output that fails cuts a session off

A session whose output takes so many bytes does what it does without an end to the
room, if its output fits.  Otherwise it ends where the room does: its output is cut
off there, it fails for the reason that the output gives, and it noted no more than
the first part of what it would have noted (`run_is_cut_off`).

It also stops reading there.  What a session does before it looks at the bytes after
some lines are the rounds of the lines and one more prompt, which is `approach`.
Where this does not fit, the bytes after the lines make no difference.
-/

namespace Abacus.Session

open Text

/-- All that a session does on some lines before it looks at what comes after them.  Says whether it
does look. -/
def approach (style : Style) (lines : List (List UInt8)) : Task Bool := do
  if ← rounds style lines then
    write prompt
    pure true
  else
    pure false

/-- A session begins with a prompt, whatever its input is. -/
theorem exists_run_eq (style : Style) (input : List UInt8) :
    ∃ answers : Task Unit, run style input = (do write prompt; answers) := by
  cases input with
  | nil => exact ⟨write "\n", by rw [run]⟩
  | cons b bs => exact ⟨_, by rw [run]⟩

/-- A session on some lines and more bytes begins with the approach to the bytes. -/
theorem exists_run_joined_append_eq (style : Style) {lines : List (List UInt8)}
    (single : ∀ line ∈ lines, 10 ∉ line) (rest : List UInt8) :
    ∃ answers : Task Unit,
      run style (joined lines ++ rest) = (do if ← approach style lines then answers) := by
  obtain ⟨answers, begins⟩ := exists_run_eq style rest
  refine ⟨answers, ?_⟩
  rw [run_joined_append style single, begins, approach, bind_assoc]
  refine bind_congr fun going => ?_
  cases going with
  | false => rfl
  | true =>
    show (write prompt >>= fun _ => answers) = (write prompt >>= fun _ => pure true) >>= _
    rw [bind_assoc]
    rfl

theorem exists_rounds_record (style : Style) (lines : List (List UInt8)) :
    ∃ r, (rounds style lines).Leaves r := by
  induction lines with
  | nil => exact ⟨_, .pure true⟩
  | cons line lines ih =>
    refine Task.Leaves.exists_bind ⟨_, .write prompt⟩ fun _ => ?_
    obtain ⟨r, answered, -⟩ := exists_answerBytes_leaves style (line ++ [10])
    refine Task.Leaves.exists_bind ⟨r, answered⟩ fun going => ?_
    cases going with
    | false => exact ⟨_, .pure false⟩
    | true => exact ih

theorem exists_approach_leaves (style : Style) (lines : List (List UInt8)) :
    ∃ r, (approach style lines).Leaves r := by
  refine Task.Leaves.exists_bind (exists_rounds_record style lines) fun going => ?_
  cases going with
  | false => exact ⟨_, .pure false⟩
  | true => exact ⟨_, (Task.Leaves.write prompt).andThen (.pure true)⟩

/-- Where the approach to the bytes after some lines does not fit, the bytes make no difference. -/
theorem run_congr_of_not_fits (style : Style) {lines : List (List UInt8)}
    (single : ∀ line ∈ lines, 10 ∉ line) {k : Console}
    (full : k.fits (approach style lines).record.out.size = false) (rest other : List UInt8) :
    run style (joined lines ++ rest) k = run style (joined lines ++ other) k := by
  obtain ⟨r, leaves⟩ := exists_approach_leaves style lines
  rw [leaves.record_eq] at full
  obtain ⟨noted, more, -, fails⟩ := leaves.cut k full
  obtain ⟨answers, begins⟩ := exists_run_joined_append_eq style single rest
  obtain ⟨answers', begins'⟩ := exists_run_joined_append_eq style single other
  rw [begins, begins', Task.bind_eq_error fails, Task.bind_eq_error fails]

/-- On a console with room for so many bytes, a session whose output fits leaves what it leaves
without an end to the room.  Otherwise it writes the first bytes, as many as there is room for,
fails for the reason that the output gives, and notes no more than the first part of what it would.
If the room ends in the approach to the bytes after some lines, these bytes make no difference. -/
theorem run_is_cut_off (style : Style) (input : List UInt8) (room : Nat) (reason : String) :
    let k : Console := ⟨#[], "", some room, reason⟩
    let whole := (run style input).record
    let cut := (run style input).recordOn k
    (whole.out.size ≤ room → cut = whole) ∧
    (room < whole.out.size →
      cut.out = whole.out.take room ∧ cut.ending = .error (.refused reason) ∧
      (∃ more, whole.err = cut.err ++ more) ∧
      ∀ lines rest, input = joined lines ++ rest → (∀ line ∈ lines, 10 ∉ line) →
        room < (approach style lines).record.out.size →
        ∀ other, (run style (joined lines ++ other)).recordOn k = cut) := by
  intro k whole cut
  obtain ⟨r, leaves, -⟩ := exists_run_leaves style input
  have same : whole = r := leaves.record_eq
  have fits (size : Nat) : k.fits size = true ↔ size ≤ room :=
    Console.fits_iff_of_room?_eq_some rfl size
  have full {size : Nat} (lt : room < size) : k.fits size = false := by
    rw [← Bool.not_eq_true, fits]
    exact Nat.not_le.2 lt
  rw [same]
  constructor
  · intro le
    exact leaves.recordOn_of_fits rfl rfl ((fits _).2 le)
  · intro lt
    obtain ⟨noted, more, parts, left⟩ := leaves.recordOn_of_not_fits rfl rfl (full lt)
    have left : cut = ⟨r.out.take room, noted, .error (.refused reason)⟩ := left
    rw [left]
    refine ⟨rfl, rfl, ⟨more, parts⟩, ?_⟩
    rintro lines rest rfl single ends other
    rw [← left]
    show Task.recordOn k _ = Task.recordOn k _
    rw [Task.recordOn, run_congr_of_not_fits style single (full ends) other rest, Task.recordOn]

/-- The room ends in the faults of the second line, so that the third one is not read. -/
theorem run_is_cut_off_in_faults :
    let cut := (run .plain [49, 10, 37, 10, 50]).recordOn (.limited 20)
    cut.out = encode ">> 1\n>> Syntax Error" ∧ cut.ending = .error (.refused "writer is full") ∧
      (run .plain [49, 10, 37, 10, 255]).recordOn (.limited 20) = cut := by
  have less : 20 < (run .plain [49, 10, 37, 10, 50]).record.out.size := by
    decide +kernel
  have first : (run .plain [49, 10, 37, 10, 50]).record.out.take 20 =
      encode ">> 1\n>> Syntax Error" := by
    decide +kernel
  have before : 20 < (approach .plain [[49], [37]]).record.out.size := by
    decide +kernel
  obtain ⟨out, ending, -, unread⟩ :=
    (run_is_cut_off .plain [49, 10, 37, 10, 50] 20 "writer is full").2 less
  exact ⟨out.trans first, ending, unread [[49], [37]] [50] rfl (by decide) before [255]⟩

end Abacus.Session
