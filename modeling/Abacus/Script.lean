import Abacus.Console
import Abacus.Interpret
import Abacus.Report
import Abacus.Text.Lines

/-!
# Running lines and scripts

Running a line writes its answer, and says whether all was well with it.  A
blank line writes nothing and is well.  A line with faults shows them in one of
two styles: as plain text among the answers, or as reports on standard error.

A script is run line by line, each line by itself.  A report names the line by
the name of the script and its number.
-/

namespace Abacus

/-- How the faults of a line are shown. -/
inductive Style
  /-- As reports on standard error. -/
  | pretty
  /-- As plain text on standard output. -/
  | plain
deriving DecidableEq, Repr

instance : Inhabited Style := ⟨.pretty⟩

/-! ## Lines -/

/-- The coloured report of a fault of a line.  The label of such a fault is never backwards, so
there always is one. -/
def reportFault (name? : Option String) (source : String) (f : Fault) : String :=
  (Report.render? true name? source f.diagnostic).getD ""

/-- Shows the faults of a line. -/
def showFaults (style : Style) (name? : Option String) (source : String) (fs : List Fault) :
    Task Unit :=
  match style with
  | .plain => write (Diagnostic.plain (fs.map Fault.diagnostic))
  | .pretty => fs.forM fun f => note (reportFault name? source f)

/-- Runs a line, and says whether all was well with it. -/
def runLine (style : Style) (name? : Option String) (source : String) : Task Bool :=
  match interpret source with
  | .ok none => pure true
  | .ok (some answer) => do
    write (answer.text ++ "\n")
    pure !answer.isError
  | .error fs => do
    showFaults style name? source fs
    pure false

/-! ## Scripts -/

/-- The name of a script that has none. -/
def defaultScriptName : String := "<input>"

/-- The name of a line of a script. -/
def lineName (name : String) (number : Nat) : String :=
  name ++ ":" ++ Text.Decimal.nat number

/-- Runs lines of a script, the first of which has a number, and says whether all was well. -/
def runLines (style : Style) (name : String) : Nat → List String → Task Bool
  | _, [] => pure true
  | number, source :: sources => do
    let ok ← runLine style (some (lineName name number)) source
    let rest ← runLines style name (number + 1) sources
    pure (ok && rest)

/-- The lines of a script. -/
def scriptLines (source : String) : List String :=
  (Text.lines source.toList).map String.ofList

/-- Notes that output could not be written. -/
def noteUnwritten (e : Failure) : Task Unit :=
  note ("Error writing output: " ++ e.message ++ "\n")

/-- Runs a script, and says whether all was well.  It ends at the first line whose output cannot be
written. -/
def runScript (style : Style) (name? : Option String) (source : String) : Task Bool :=
  tryCatch (runLines style (name?.getD defaultScriptName) 1 (scriptLines source)) fun e => do
    noteUnwritten e
    pure false

end Abacus
