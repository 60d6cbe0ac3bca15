import Abacus.Command
import Abacus.Host

/-!
# The program

What the program does for each invocation on a host, with an exit status
(`performOn`).  In memory it is a task, where the files that the program can read
and the bytes on its standard input are given (`perform`).

Help and version are printed as far as they can be.  An expression or a script
that is not well gives the status one, and so does output that cannot be
written or a script that cannot be read.  A session always gives the status
zero.
-/

namespace Abacus.Program

/-- The lines of the help that the program prints. -/
def helpLines : List String :=
  ["Evaluates integer arithmetic expressions, one per line",
   "",
   "Usage: yac [OPTIONS] [FILE]",
   "",
   "Arguments:",
   "  [FILE]  A file with one expression per line",
   "",
   "Options:",
   "  -e, --eval <EXPR>  Evaluate a single expression and exit",
   "  -i, --interactive  Start in interactive REPL mode (the default without input)",
   "      --plain        Print syntax errors as plain text instead of diagnostics",
   "  -h, --help         Print help",
   "  -V, --version      Print version"]

/-- The help that the program prints. -/
def helpText : String :=
  String.join (helpLines.map (· ++ "\n"))

/-- The version that the program prints. -/
def versionText : String := "yac 0.1.0\n"

/-- What is written before a session. -/
def banner : String := "yac v0.1.0\nType 'exit' or press Ctrl+D to quit\n\n"

/-- The name of an expression given as an argument. -/
def expressionName : String := "<eval>"

/-- An exit status. -/
abbrev Status := UInt8

/-- The status of arguments that are refused. -/
def refusedStatus : Status := 2

/-- The status that tells whether all was well. -/
def statusOf (ok : Bool) : Status :=
  if ok then 0 else 1

/-- The text of the script that is found under a name, or what is said if there is none. -/
def scriptText (name : String) : File → Except String String
  | .missing => .error ("Error: File '" ++ name ++ "' not found\n")
  | .unreadable reason => .error ("Error reading file '" ++ name ++ "': " ++ reason ++ "\n")
  | .bytes contents =>
    match Text.decode? contents with
    | some source => .ok source
    | none => .error ("Error reading file '" ++ name ++ "': " ++ Failure.notText.message ++ "\n")

/-- Notes why a session could not go on. -/
def noteBroken (e : Failure) : Task Unit :=
  note ("Error reading input: " ++ e.message ++ "\n")

section

variable {m : Type → Type} [Monad m] [MonadExceptOf Failure m] (host : Host m)

/-- Writes a text as far as it can be written. -/
def writeInfo (text : String) : m Status :=
  tryCatch (do host.task (write text); return 0) fun _ => return 0

/-- Evaluates an expression. -/
def evaluate (style : Style) (source : String) : m Status :=
  tryCatch (statusOf <$> host.task (runLine style (some expressionName) source)) fun e => do
    host.task (noteUnwritten e)
    return 1

/-- Runs the script that is found under a name. -/
def script (style : Style) (name : String) : m Status := do
  match scriptText name (← host.find name) with
  | .ok source => statusOf <$> host.runScript style name source
  | .error message =>
    host.task (note message)
    return 1

/-- Holds a session. -/
def interactive (style : Style) : m Status :=
  tryCatch (do host.task (write banner); host.session style; return 0) fun e => do
    host.task (noteBroken e)
    return 0

/-- Does what the program is asked for on a host, and gives the exit status. -/
def performOn : Command.Invocation → m Status
  | .help => writeInfo host helpText
  | .version => writeInfo host versionText
  | .run (.evaluate source) style => evaluate host style source
  | .run (.script name) style => script host style name
  | .run .interactive style => interactive host style

end

/-- Does what the program is asked for in memory, where the files and the input are given. -/
def perform (files : String → File) (input : List UInt8) (invocation : Command.Invocation) :
    Task Status :=
  (performOn (.inMemory files) invocation).onInput input

end Abacus.Program
