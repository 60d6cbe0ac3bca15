import Abacus.Script
import Abacus.Text.Lines
import Abacus.Text.Printable

/-!
# The command line

The arguments of the program are read from left to right.

* `-e` and `--eval` ask for an expression to be evaluated.  The expression is
  the rest of the argument, without one `=` in front, or else the next argument
  whatever it is.
* `-i` and `--interactive` ask for a session, and a name asks for a script.
* `--plain` chooses the plain style.
* `-h`, `--help`, `-V` and `--version` end the reading at once.
* Short options may stand together behind one dash.  `--` ends the options,
  and a dash by itself is a name.

Each of these can be given once, and at most one of the first three things can
be asked for.  Nothing asks for a session.

*Which fault is told.*  An option that is not known, a value that an option
does not take and a second name are told when they are met.  So is an option
given again, with one exception.  An expression given as an argument of its own
is only *taken over* at the next option, at a name or at the end, and only then
is it told that it was the second one.  That several things are asked for is
told last.  Messages quote the printable part of an argument.
-/

namespace Abacus.Command

/-! ## What can be asked for, and what can be wrong -/

/-- What the program does. -/
inductive Mode
  /-- Evaluates an expression. -/
  | evaluate (source : String)
  /-- Runs the script of a name. -/
  | script (name : String)
  /-- Holds a session. -/
  | interactive
deriving DecidableEq, Repr

/-- What the program is asked for. -/
inductive Invocation
  /-- To print its help. -/
  | help
  /-- To print its version. -/
  | version
  /-- To do its work, showing faults in a style. -/
  | run (mode : Mode) (style : Style)
deriving DecidableEq, Repr

/-- The things that arguments can be about. -/
inductive Item
  /-- The expression to evaluate. -/
  | eval
  /-- The wish for a session. -/
  | interactive
  /-- The plain style. -/
  | plain
  /-- The name of a script. -/
  | file
  /-- The wish for help. -/
  | help
  /-- The wish for the version. -/
  | version
deriving DecidableEq, Repr

/-- How messages call an item. -/
def Item.name : Item → String
  | eval => "--eval <EXPR>"
  | interactive => "--interactive"
  | plain => "--plain"
  | file => "[FILE]"
  | help => "--help"
  | version => "--version"

/-- The item that asks for a mode. -/
def Mode.item : Mode → Item
  | evaluate _ => .eval
  | script _ => .file
  | interactive => .interactive

/-- Why arguments are refused. -/
inductive Refusal
  /-- There is no expression after the option for one. -/
  | missingValue
  /-- An item is given twice. -/
  | repeated (item : Item)
  /-- An argument, or a letter in it, is not known. -/
  | unexpected (argument : String)
  /-- An item is given a value but takes none. -/
  | unexpectedValue (value : String) (item : Item)
  /-- An item cannot be given with the next one and the others. -/
  | conflict (first second : Item) (others : List Item)
deriving DecidableEq, Repr

/-- A text as messages quote it: its printable part. -/
def quoted (text : String) : String :=
  String.ofList (Text.printable text.toList)

/-- What is said about refused arguments. -/
def Refusal.message : Refusal → String
  | missingValue =>
    "error: a value is required for '" ++ Item.eval.name ++ "' but none was supplied"
  | repeated item => "error: the argument '" ++ item.name ++ "' cannot be used multiple times"
  | unexpected argument => "error: unexpected argument '" ++ quoted argument ++ "' found"
  | unexpectedValue value item =>
    "error: unexpected value '" ++ quoted value ++ "' for '" ++ item.name ++
      "' found; no more were expected"
  | conflict first second [] =>
    "error: the argument '" ++ first.name ++ "' cannot be used with '" ++ second.name ++ "'"
  | conflict first _ (_ :: _) => "error: the argument '" ++ first.name ++ "' cannot be used with:"

/-- The first line of what is said about refused arguments.  There is another one only if an
argument has a line feed in it. -/
def Refusal.headline (r : Refusal) : String :=
  String.ofList ((Text.lines r.message.toList).head?.getD [])

/-! ## Reading arguments -/

/-- Why the reading of arguments ends before their end. -/
inductive Stop
  /-- They are refused. -/
  | refused (r : Refusal)
  /-- Help is asked for. -/
  | help
  /-- The version is asked for. -/
  | version
deriving DecidableEq, Repr

/-- What the arguments read so far ask for. -/
structure Given where
  /-- Whether the plain style is chosen. -/
  plain : Bool
  /-- The modes asked for, in order. -/
  modes : List Mode
  /-- An expression that was read and is not yet taken over. -/
  waiting? : Option String
deriving DecidableEq, Repr

namespace Given

/-- Nothing is asked for. -/
def nothing : Given :=
  ⟨false, [], none⟩

/-- Whether the item of a mode was given. -/
def has (item : Item) (g : Given) : Bool :=
  g.modes.any (·.item = item)

/-- Asks for a mode, which its item may do once. -/
def ask (mode : Mode) (g : Given) : Except Stop Given :=
  if g.has mode.item then .error (.refused (.repeated mode.item))
  else .ok { g with modes := g.modes ++ [mode] }

/-- Takes over the expression that is waiting. -/
def settle (g : Given) : Except Stop Given :=
  match g.waiting? with
  | none => .ok g
  | some source => { g with waiting? := none }.ask (.evaluate source)

/-- Asks for a mode after what is waiting. -/
def settleAsk (mode : Mode) (g : Given) : Except Stop Given := do
  (← g.settle).ask mode

/-- Chooses the plain style. -/
def choosePlain (g : Given) : Except Stop Given := do
  let g ← g.settle
  if g.plain then .error (.refused (.repeated .plain)) else .ok { g with plain := true }

/-- Ends the reading after what is waiting. -/
def settleStop {α : Type} (stop : Stop) (g : Given) : Except Stop α := do
  let _ ← g.settle
  .error stop

/-- Takes the name of a script. -/
def name (text : String) (g : Given) : Except Stop Given :=
  if g.has .file then .error (.refused (.unexpected text)) else g.settleAsk (.script text)

end Given

/-- What is known after an option was read: what is asked for, and whether the next argument is the
expression to evaluate. -/
structure Progress where
  /-- What is asked for. -/
  given : Given
  /-- Whether an expression has to follow. -/
  expects : Bool
deriving DecidableEq, Repr

/-- Nothing has to follow. -/
def Progress.done (g : Given) : Progress :=
  ⟨g, false⟩

/-- An expression has to follow. -/
def Progress.expect (g : Given) : Progress :=
  ⟨g, true⟩

/-- Reads the letters of short options. -/
def readLetters : List Char → Given → Except Stop Progress
  | [], g => .ok (.done g)
  | ['e'], g => .expect <$> g.settle
  | 'e' :: '=' :: source, g => .done <$> g.settleAsk (.evaluate (.ofList source))
  | 'e' :: source, g => .done <$> g.settleAsk (.evaluate (.ofList source))
  | 'i' :: cs, g => do readLetters cs (← g.settleAsk .interactive)
  | 'h' :: _, g => g.settleStop .help
  | 'V' :: _, g => g.settleStop .version
  | c :: _, _ => .error (.refused (.unexpected (.ofList ['-', c])))

/-- The value behind the first `=` of a long option, if there is one. -/
def longValue? (option : List Char) : Option String :=
  match option.dropWhile (· ≠ '=') with
  | [] => none
  | _ :: value => some (.ofList value)

/-- The name of a long option. -/
def longName (option : List Char) : String :=
  .ofList (option.takeWhile (· ≠ '='))

/-- Refuses a value for an item that takes none. -/
def takesNone (item : Item) (value? : Option String) : Except Stop Unit :=
  match value? with
  | none => .ok ()
  | some value => .error (.refused (.unexpectedValue value item))

/-- Reads a long option, given without its dashes. -/
def readLong (name : String) (value? : Option String) (g : Given) : Except Stop Progress :=
  match name with
  | "eval" =>
    match value? with
    | none => .expect <$> g.settle
    | some source => .done <$> g.settleAsk (.evaluate source)
  | "interactive" => do
    takesNone .interactive value?
    .done <$> g.settleAsk .interactive
  | "plain" => do
    takesNone .plain value?
    .done <$> g.choosePlain
  | "help" => do
    takesNone .help value?
    g.settleStop .help
  | "version" => do
    takesNone .version value?
    g.settleStop .version
  | _ => .error (.refused (.unexpected ("--" ++ name)))

/-- Reads an argument that is not `--`. -/
def readArgument (argument : String) (g : Given) : Except Stop Progress :=
  match argument.toList with
  | '-' :: '-' :: option => readLong (longName option) (longValue? option) g
  | '-' :: c :: cs => readLetters (c :: cs) g
  | _ => .done <$> g.name argument

/-- Reads names. -/
def readNames : List String → Given → Except Stop Given
  | [], g => g.settle
  | argument :: arguments, g => do readNames arguments (← g.name argument)

/-- Reads arguments. -/
def readArguments : List String → Given → Except Stop Given
  | [], g => g.settle
  | "--" :: arguments, g => readNames arguments g
  | [argument], g => do
    let p ← readArgument argument g
    if p.expects then .error (.refused .missingValue) else p.given.settle
  | argument :: next :: arguments, g => do
    let p ← readArgument argument g
    if p.expects then readArguments arguments { p.given with waiting? := some next }
    else readArguments (next :: arguments) p.given

/-- What is asked for, when all arguments are read. -/
def Given.invocation (g : Given) : Except Refusal Invocation :=
  let style : Style := if g.plain then .plain else .pretty
  match g.modes with
  | [] => .ok (.run .interactive style)
  | [mode] => .ok (.run mode style)
  | first :: second :: others =>
    .error (.conflict first.item second.item (others.map Mode.item))

/-- What arguments ask for, or why they are refused. -/
def read (arguments : List String) : Except Refusal Invocation :=
  match readArguments arguments .nothing with
  | .ok g => g.invocation
  | .error .help => .ok .help
  | .error .version => .ok .version
  | .error (.refused r) => .error r

end Abacus.Command
