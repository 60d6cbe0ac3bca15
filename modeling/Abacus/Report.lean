import Abacus.Diagnostic
import Abacus.Report.Label
import Abacus.Text.Blank
import Abacus.Text.Width

/-!
# Reports

A *report* draws a diagnostic for a terminal: a heading, the line of the source
with the label in colour, the label drawn under it with the message, and the
help.

```text
Error: Syntax Error: Illegal token: %
   ╭─[<repl>:1:3]
   │
 1 │ 4 % 2
   │   ┬
   │   ╰── Illegal token: %
───╯
```

The row under the source is made of *cells*, one for each character up to two
past the label.  A cell is as wide as the character above it: a tab reaches to
the next column that four divides when every character before it counts as one,
another blank takes one column, and any other character takes the columns that
`Text.columns` gives.  Past the text of the line a cell is one column wide.

With colours off everything is drawn without them, except the heading of the
kind of error and the word for help, which keep theirs.
-/

namespace Abacus.Report

open Text

/-! ## Colours -/

/-- A text in a colour of the terminal. -/
def painted (colour text : String) : String :=
  "\x1b[" ++ colour ++ "m" ++ text ++ "\x1b[0m"

/-- A text in a colour if colours are on. -/
def paint (coloured : Bool) (colour text : String) : String :=
  if coloured then painted colour text else text

/-- The colour of the word that begins a report. -/
def alarmColour : String := "31"

/-- The colour of the word for help. -/
def helpColour : String := "36"

/-- The colour of the word that begins a note. -/
def noteColour : String := "38;5;115"

/-- The colour of the frame. -/
def frameColour : String := "38;5;246"

/-- The colour of the frame beside rows without source text. -/
def gutterColour : String := "38;5;240"

/-- The colour of source text without a label. -/
def sourceColour : String := "38;5;249"

/-- The colour of a label for a kind of error. -/
def labelColour : Diagnostic.Kind → String
  | .syntactic => "33"
  | .usage => "35"

/-! ## Cells -/

/-- The same text several times. -/
def times (n : Nat) (text : String) : String :=
  String.join (List.replicate n text)

/-- The columns from one tab stop to the next. -/
def tabWidth : Nat := 4

/-- The columns that a character takes at an index of its line. -/
def cellWidth (index : Nat) (c : Char) : Nat :=
  if c = '\t' then tabWidth - index % tabWidth else if isBlank c then 1 else columns c

/-- The columns of the first `count` cells under a text.  A cell past its end takes one. -/
def cellWidths (text : List Char) (count : Nat) : List Nat :=
  (text.mapIdx cellWidth ++ List.replicate count 1).take count

/-- What a cell shows in its first column and in the others. -/
structure Cell where
  /-- The first column. -/
  head : String
  /-- Each further column. -/
  tail : String

/-- A cell that shows the same in every column. -/
def Cell.even (text : String) : Cell :=
  ⟨text, text⟩

/-- A cell drawn over a number of columns. -/
def Cell.draw (c : Cell) : Nat → String
  | 0 => ""
  | n + 1 => c.head ++ times n c.tail

/-- A row of the first `count` cells under a text. -/
def drawRow (text : List Char) (count : Nat) (cell : Nat → Cell) : String :=
  String.join ((cellWidths text count).mapIdx fun index width => (cell index).draw width)

/-! ## The parts of a report -/

/-- Whether a character of the line is labelled. -/
def Excerpt.labels (x : Excerpt) (index : Nat) : Bool :=
  x.start ≤ index && index < x.stop

/-- The index at which the message hangs from the label: the middle of it. -/
def Excerpt.middle (x : Excerpt) : Nat :=
  (x.start + x.stop) / 2

/-- The text of the line as it is shown: without the blanks at its end. -/
def Excerpt.text (x : Excerpt) : List Char :=
  trimEnd x.line

/-- The columns that line numbers take. -/
def Excerpt.numberWidth (x : Excerpt) : Nat :=
  (Nat.toDigits 10 x.number).length

/-- How the parts of a report are drawn. -/
structure Ink where
  /-- Whether colours are on. -/
  coloured : Bool
  /-- The colour of the label. -/
  label : String

namespace Ink

/-- A text in a colour if colours are on. -/
def paint (ink : Ink) (colour text : String) : String :=
  Report.paint ink.coloured colour text

/-- A part of the label. -/
def mark (ink : Ink) (text : String) : String :=
  ink.paint ink.label text

/-- A part of the frame. -/
def frame (ink : Ink) (text : String) : String :=
  ink.paint frameColour text

/-- One character of the source: as it is, or as many blanks as a blank takes columns. -/
def character (ink : Ink) (x : Excerpt) (index : Nat) (c : Char) : String :=
  let colour := if x.labels index then ink.label else sourceColour
  if isBlank c then times (cellWidth index c) (ink.paint colour " ")
  else ink.paint colour (String.singleton c)

/-- The row that names the place of the label, and the row below it. -/
def placeRows (ink : Ink) (x : Excerpt) (name : String) : String :=
  let margin := times (x.numberWidth + 2) " "
  let position := name ++ ":" ++ Decimal.nat x.number ++ ":" ++ Decimal.nat (x.start + 1)
  margin ++ ink.frame "╭" ++ ink.frame "─" ++ ink.frame "[" ++ position ++ ink.frame "]" ++ "\n" ++
    margin ++ ink.frame "│" ++ "\n"

/-- The row of the source line. -/
def sourceRow (ink : Ink) (x : Excerpt) : String :=
  " " ++ ink.frame (Decimal.nat x.number ++ " │") ++ " " ++
    String.join (x.text.mapIdx (ink.character x)) ++ "\n"

/-- The start of a row without source text. -/
def gutter (ink : Ink) (x : Excerpt) : String :=
  " " ++ ink.paint gutterColour (times (x.numberWidth + 1) " " ++ "│") ++ " "

/-- The cell of the row that underlines the label. -/
def underline (ink : Ink) (x : Excerpt) (index : Nat) : Cell :=
  if index = x.middle then
    if x.labels index then ⟨ink.mark "┬", ink.mark "─"⟩ else ⟨ink.mark "│", ink.mark " "⟩
  else if x.labels index then .even (ink.mark "─")
  else .even " "

/-- The cell of the row that leads from the label to the message. -/
def arrow (ink : Ink) (x : Excerpt) (index : Nat) : Cell :=
  if index = x.middle then ⟨ink.mark "╰", ink.mark "─"⟩
  else if x.middle < index then .even (ink.mark "─")
  else .even " "

/-- The two rows of the label. -/
def labelRows (ink : Ink) (x : Excerpt) (message : String) : String :=
  ink.gutter x ++ drawRow x.text (x.stop + 2) (ink.underline x) ++ "\n" ++
    ink.gutter x ++ drawRow x.text (x.stop + 2) (ink.arrow x) ++ " " ++ message ++ "\n"

/-- The rows of the help. -/
def helpRows (ink : Ink) (x : Excerpt) (text : String) : String :=
  ink.gutter x ++ "\n" ++ ink.gutter x ++ ink.paint noteColour "Note" ++ ": " ++
    painted helpColour "help" ++ ": " ++ text ++ "\n"

/-- The row that closes the frame. -/
def bottomRow (ink : Ink) (x : Excerpt) : String :=
  ink.frame (times (x.numberWidth + 2) "─" ++ "╯") ++ "\n"

/-- All rows of an excerpt of the source `name`. -/
def excerptRows (ink : Ink) (x : Excerpt) (name : String) (d : Diagnostic) : String :=
  ink.placeRows x name ++ ink.sourceRow x ++ ink.labelRows x d.message ++
    (d.help?.map (ink.helpRows x)).getD "" ++ ink.bottomRow x

end Ink

/-! ## Reports -/

/-- The name of a source that has none. -/
def defaultName : String := "<repl>"

/-- The first row of a report. -/
def heading (coloured : Bool) (d : Diagnostic) : String :=
  paint coloured alarmColour "Error:" ++ " " ++
    painted (labelColour d.kind) d.kind.heading ++ ": " ++ d.message ++ "\n"

/-- The report of a diagnostic with a label in a source.  An empty source shows no excerpt. -/
def draw (coloured : Bool) (name? : Option String) (source : List Char) (d : Diagnostic)
    (label : Label) : String :=
  let ink : Ink := ⟨coloured, labelColour d.kind⟩
  heading coloured d ++
    ((excerpt? source label).map fun x => ink.excerptRows x (name?.getD defaultName) d).getD ""

/-- The report of a diagnostic of a source, unless its label is backwards. -/
def render? (coloured : Bool) (name? : Option String) (source : String) (d : Diagnostic) :
    Option String :=
  (label? source.toList d.span).map (draw coloured name? source.toList d)

end Abacus.Report
