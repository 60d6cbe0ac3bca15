import Abacus.Session

/-!
# Hosts

A *host* is what the program runs on.  It performs tasks, reads bytes of the
input and finds files, in a monad of its own.  The system is a host, and so is a
memory that holds the input and the files.

Tasks are performed one by one.  A prompt is a task of its own, so that it is
seen before the line is typed, and nothing is run after a line whose output could
not be written.

A host does not know how long its input is.  So reading a line and holding a
session are loops without a bound.
-/

namespace Abacus

/-- What is found under a name. -/
inductive Program.File
  /-- There is nothing. -/
  | missing
  /-- It cannot be read, for a reason. -/
  | unreadable (reason : String)
  /-- A file with these bytes. -/
  | bytes (contents : List UInt8)
deriving DecidableEq, Repr

/-- What the program runs on. -/
structure Host (m : Type → Type) where
  /-- Performs a task, which fails if its output cannot be written. -/
  task : {α : Type} → Task α → m α
  /-- Reads a byte of the input, if there is one. -/
  readByte : m (Option UInt8)
  /-- What is found under a name. -/
  find : String → m Program.File

namespace Host

variable {m : Type → Type} [Monad m] (host : Host m)

/-! ## Sessions -/

/-- Reads a byte after those of a line that were read, and says whether the line goes on. -/
def readOn (line : Array UInt8) : m (Array UInt8 ⊕ Array UInt8) := do
  match ← host.readByte with
  | none => return .inr line
  | some b => return if b = 10 then .inr (line.push b) else .inl (line.push b)

/-- Reads the bytes of a line, with its line feed. -/
def readLine : m (List UInt8) :=
  Array.toList <$> repeatM host.readOn #[]

/-- Answers the bytes of a line, of which there are none where the input ends, and says whether the
session goes on. -/
def answer (style : Style) : List UInt8 → m Bool
  | [] => do
    host.task (write "\n")
    return false
  | b :: bs => host.task (Session.answerBytes style (b :: bs))

/-- Asks for a line and answers it, and says whether the session goes on. -/
def turn (style : Style) : m Bool := do
  host.task (write Session.prompt)
  host.answer style (← host.readLine)

/-- Holds a session. -/
def session (style : Style) : m Unit :=
  repeatM (fun _ => do return if ← host.turn style then .inl () else .inr ()) ()

/-! ## Scripts -/

/-- Runs lines of a script, the first of which has a number, and says whether all was well. -/
def runLines (style : Style) (name : String) : Nat → List String → m Bool
  | _, [] => return true
  | number, source :: sources => do
    let ok ← host.task (runLine style (some (lineName name number)) source)
    let rest ← runLines style name (number + 1) sources
    return ok && rest

/-- Runs a script, and says whether all was well.  It ends at the first line whose output cannot be
written. -/
def runScript [MonadExceptOf Failure m] (style : Style) (name source : String) : m Bool :=
  tryCatch (host.runLines style name 1 (scriptLines source)) fun e => do
    host.task (noteUnwritten e)
    return false

end Host

/-! ## Memory -/

/-- What is done with the rest of an input, on a console. -/
abbrev InMemory := StateT (List UInt8) (ExceptT Failure (StateM Console))

/-- The memory that holds some files, as a host. -/
def Host.inMemory (files : String → Program.File) : Host InMemory where
  task t := fun input k =>
    match t k with
    | .ok a k => (.ok (a, input), k)
    | .error e k => (.error e, k)
  readByte := fun input => pure (input.head?, input.tail)
  find name := pure (files name)

/-- What is done in memory as a task, when the input is given. -/
def InMemory.onInput {α : Type} (x : InMemory α) (input : List UInt8) : Task α := fun k =>
  match x input k with
  | (.ok (a, _), k) => .ok a k
  | (.error e, k) => .error e k

end Abacus
