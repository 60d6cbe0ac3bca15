import Abacus.Proofs.Lines
import Abacus.Proofs.Recording
import Abacus.Proofs.Scanning

/-!
# What a run leaves

Running a line leaves a record that its answer determines (`runLine_leaves`).  In
either style a value or a failure is written to standard output.  The plain style
writes faults there too, and the other one notes reports of them on standard error.

What is written depends on the bare tokens of the line alone, so that blanks around
it make no difference (`Style.text_interpret_trim`).

A script leaves what its lines leave, one after another (`runScript_of_fits`).  It
catches a failure of its output, so this is said of consoles with room only.  For
the plain style, in which nothing is noted, a task *puts* bytes when it writes them
on any console with room for them and does nothing else.
-/

namespace Abacus

variable {α β : Type}

/-! ## Tasks that put bytes -/

namespace Task

/-- On a console with room for these bytes, the task writes them, does nothing else, and gives
this result. -/
def Puts (t : Task α) (a : α) (bytes : Array UInt8) : Prop :=
  ∀ k : Console, k.fits bytes.size = true → t k = .ok a (k.put bytes)

/-- What a task writes if there is no end to the room. -/
def output (t : Task α) : Array UInt8 :=
  match t .endless with
  | .ok _ k => k.out
  | .error _ k => k.out

theorem Puts.output_eq {t : Task α} {a : α} {bytes : Array UInt8} (puts : t.Puts a bytes) :
    t.output = bytes := by
  rw [output, puts .endless rfl]
  simp [Console.put, Console.endless]

namespace Leaves

variable {t : Task α} {a : α} {bytes : Array UInt8} {text : String}

theorem puts (leaves : t.Leaves ⟨bytes, "", .ok a⟩) : t.Puts a bytes := by
  intro k room
  rw [leaves.whole k room]
  simp only [Record.result, Console.hear_empty]

/-- On a console with room the task does not fail, so nothing is caught. -/
theorem tryCatch_of_fits (leaves : t.Leaves ⟨bytes, text, .ok a⟩) (handle : Failure → Task α)
    {k : Console} (room : k.fits bytes.size = true) :
    tryCatch t handle k = .ok a ((k.put bytes).hear text) := by
  show EStateM.tryCatch t handle k = _
  rw [EStateM.tryCatch, leaves.whole k room]
  rfl

end Leaves

end Task

/-! ## What is shown of an answer -/

/-- What a run in the plain style writes for an answer. -/
def plainText : Except (List Fault) (Option Answer) → String
  | .ok none => ""
  | .ok (some answer) => answer.text ++ "\n"
  | .error fs => Diagnostic.plain (fs.map Fault.diagnostic)

/-- Whether all is well with an answer. -/
def isWell : Except (List Fault) (Option Answer) → Bool
  | .ok none => true
  | .ok (some answer) => !answer.isError
  | .error _ => false

/-- What a run writes to standard output for an answer. -/
def Style.text : Style → Except (List Fault) (Option Answer) → String
  | .pretty, .error _ => ""
  | _, verdict => plainText verdict

/-- What a run of a line notes on standard error for its answer. -/
def Style.notes (name? : Option String) (source : String) :
    Style → Except (List Fault) (Option Answer) → String
  | .pretty, .error fs => String.join (fs.map (reportFault name? source))
  | _, _ => ""

@[simp] theorem Style.text_plain (verdict : Except (List Fault) (Option Answer)) :
    Style.text .plain verdict = plainText verdict := rfl

@[simp] theorem Style.notes_plain (name? : Option String) (source : String)
    (verdict : Except (List Fault) (Option Answer)) :
    Style.notes name? source .plain verdict = "" := rfl

theorem plain_eq (ds : List Diagnostic) :
    Diagnostic.plain ds = ((ds.head?.map Diagnostic.kind).getD .syntactic).heading ++ ":\n" ++
      String.join ((ds.map Diagnostic.message).map fun message => "\t-" ++ message ++ "\n") := by
  rw [Diagnostic.plain, List.map_map]
  rfl

/-- The plain form of faults does not show their places. -/
theorem plainText_mapError_bare (verdict : Except (List Fault) (Option Answer)) :
    plainText (verdict.mapError (List.map .bare)) = plainText verdict := by
  cases verdict with
  | ok answer? => rfl
  | error fs =>
    have kinds : ((fs.map Fault.bare).map Fault.diagnostic).head?.map Diagnostic.kind =
        (fs.map Fault.diagnostic).head?.map Diagnostic.kind := by
      cases fs <;> rfl
    have messages : ((fs.map Fault.bare).map Fault.diagnostic).map Diagnostic.message =
        (fs.map Fault.diagnostic).map Diagnostic.message := by
      simp only [List.map_map]
      rfl
    show Diagnostic.plain _ = Diagnostic.plain _
    rw [plain_eq, plain_eq, kinds, messages]

theorem isWell_mapError_bare (verdict : Except (List Fault) (Option Answer)) :
    isWell (verdict.mapError (List.map .bare)) = isWell verdict := by
  cases verdict <;> rfl

theorem Style.text_mapError_bare (style : Style)
    (verdict : Except (List Fault) (Option Answer)) :
    style.text (verdict.mapError (List.map .bare)) = style.text verdict := by
  cases style with
  | plain => exact plainText_mapError_bare verdict
  | pretty => cases verdict <;> rfl

/-- Texts with the same bare tokens have the same output. -/
theorem Style.text_interpret_congr (style : Style) {a b : String}
    (same : bareTokens a.toList = bareTokens b.toList) :
    style.text (interpret a) = style.text (interpret b) := by
  rw [← style.text_mapError_bare (interpret a), ← style.text_mapError_bare (interpret b),
    mapError_bare_interpret, mapError_bare_interpret, same]

theorem plainText_interpret_congr {a b : String}
    (same : bareTokens a.toList = bareTokens b.toList) :
    plainText (interpret a) = plainText (interpret b) :=
  Style.text_interpret_congr .plain same

/-- Trimming a line does not change its output. -/
theorem Style.text_interpret_trim (style : Style) (cs : List Char) :
    style.text (interpret (.ofList (Text.trim cs))) = style.text (interpret (.ofList cs)) := by
  apply style.text_interpret_congr
  rw [String.toList_ofList, String.toList_ofList, bareTokens_trim]

theorem isWell_interpret_congr {a b : String} (same : bareTokens a.toList = bareTokens b.toList) :
    isWell (interpret a) = isWell (interpret b) := by
  rw [← isWell_mapError_bare (interpret a), ← isWell_mapError_bare (interpret b),
    mapError_bare_interpret, mapError_bare_interpret, same]

/-- The empty line has no answer. -/
theorem interpret_empty : interpret "" = .ok none := by
  decide +kernel

/-! ## Lines -/

/-- Running a line in the plain style writes its plain output and tells whether it is well.  Nothing
is written as an empty text is, which fits everywhere. -/
theorem runLine_plain_eq (name? : Option String) (source : String) :
    runLine .plain name? source =
      (write (plainText (interpret source)) >>= fun _ => pure (isWell (interpret source))) := by
  rw [runLine]
  cases interpret source with
  | error fs => rfl
  | ok answer? =>
    cases answer? with
    | some answer => rfl
    | none =>
      funext k
      have fits : k.fits (Text.encode "").size = true := k.fits_zero
      have written : write "" k = .ok () k := by
        rw [write_of_fits fits]
        exact congrArg (EStateM.Result.ok ()) k.put_empty
      show EStateM.Result.ok true k = EStateM.bind (write "") (fun _ => pure true) k
      rw [EStateM.bind, written]
      rfl

theorem showFaults_leaves (style : Style) (name? : Option String) (source : String)
    (fs : List Fault) : (showFaults style name? source fs).Leaves
      ⟨Text.encode (style.text (.error fs)), style.notes name? source (.error fs), .ok ()⟩ := by
  cases style with
  | plain => exact .write (Diagnostic.plain (fs.map Fault.diagnostic))
  | pretty => exact .forM_note (reportFault name? source) fs

/-- Running a line leaves what is shown of its answer, and tells whether it is well. -/
theorem runLine_leaves (style : Style) (name? : Option String) (source : String) :
    (runLine style name? source).Leaves ⟨Text.encode (style.text (interpret source)),
      style.notes name? source (interpret source), .ok (isWell (interpret source))⟩ := by
  rw [runLine]
  cases interpret source with
  | error fs => exact (showFaults_leaves style name? source fs).map fun _ => false
  | ok answer? =>
    cases answer? with
    | none => cases style <;> exact .pure true
    | some answer => cases style <;> exact (Task.Leaves.write _).map fun _ => !answer.isError

/-! ## Scripts -/

/-- What a run in a style writes for lines. -/
def Style.lineTexts (style : Style) (sources : List String) : Array UInt8 :=
  sources.foldr (fun source rest => Text.encode (style.text (interpret source)) ++ rest) #[]

/-- What a run in a style notes for lines of a script, the first of which has a number. -/
def Style.lineNotes (style : Style) (name : String) : Nat → List String → String
  | _, [] => ""
  | number, source :: sources =>
    style.notes (some (lineName name number)) source (interpret source) ++
      style.lineNotes name (number + 1) sources

theorem Style.lineNotes_plain (name : String) (number : Nat) (sources : List String) :
    Style.lineNotes .plain name number sources = "" := by
  induction sources generalizing number with
  | nil => rfl
  | cons source sources ih => rw [lineNotes, notes_plain, ih, String.append_empty]

theorem runLines_leaves (style : Style) (name : String) (sources : List String) (number : Nat) :
    (runLines style name number sources).Leaves ⟨style.lineTexts sources,
      style.lineNotes name number sources, .ok (sources.all fun s => isWell (interpret s))⟩ := by
  induction sources generalizing number with
  | nil => exact .pure true
  | cons source sources ih =>
    have rest := (ih (number + 1)).map (isWell (interpret source) && ·)
    exact (runLine_leaves style (some (lineName name number)) source).bind
      (f := fun ok => runLines style name (number + 1) sources >>= fun x => pure (ok && x)) rest

/-- A script whose output fits leaves what its lines leave. -/
theorem runScript_of_fits (style : Style) (name? : Option String) (source : String) {k : Console}
    (room : k.fits (style.lineTexts (scriptLines source)).size = true) :
    runScript style name? source k =
      .ok ((scriptLines source).all fun s => isWell (interpret s))
        ((k.put (style.lineTexts (scriptLines source))).hear
          (style.lineNotes (name?.getD defaultScriptName) 1 (scriptLines source))) :=
  (runLines_leaves style _ (scriptLines source) 1).tryCatch_of_fits _ room

theorem runScript_puts (name? : Option String) (source : String) :
    (runScript .plain name? source).Puts ((scriptLines source).all fun s => isWell (interpret s))
      (Style.lineTexts .plain (scriptLines source)) := by
  intro k room
  rw [runScript_of_fits .plain name? source room, Style.lineNotes_plain, Console.hear_empty]

/-- A line that is run as a script puts what it puts as a line. -/
theorem output_runScript_line (name? : Option String) {l : List Char} (unbroken : '\n' ∉ l) :
    (runScript .plain name? (.ofList l)).output =
      Text.encode (plainText (interpret (.ofList l))) := by
  rw [(runScript_puts name? (.ofList l)).output_eq, scriptLines, String.toList_ofList]
  by_cases empty : l = []
  · rw [empty]
    show _ = Text.encode (plainText (interpret ""))
    rw [interpret_empty]
    rfl
  · rw [Text.lines_of_not_mem unbroken empty]
    simp [Style.lineTexts]

end Abacus
