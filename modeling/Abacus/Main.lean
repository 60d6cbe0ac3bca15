import Abacus.Program

/-!
# The executable

Reads the arguments and does what they ask for on the system.  Every task is
performed on a console of its own, and what it leaves there is then written out.
-/

namespace Abacus

/-- The reason that the system gives for an error, with its number where it has one. -/
def systemReason : IO.Error → String
  | .resourceExhausted _ code details => reason code details
  | .inappropriateType _ code details => reason code details
  | .permissionDenied _ code details => reason code details
  | .otherError code details => reason code details
  | e => toString e
where
  reason (code : UInt32) (details : String) : String :=
    details ++ " (os error " ++ Text.Decimal.nat code.toNat ++ ")"

/-- What is done on the system, and fails as a task does. -/
abbrev OnSystem := EIO Failure

/-- An action of the system, which fails for the reason that the system gives. -/
def OnSystem.lift {α : Type} (action : IO α) : OnSystem α :=
  EIO.adapt (fun e => .refused (systemReason e)) action

/-- What the system has under a name. -/
def findFile (name : String) : IO Program.File := do
  try
    return .bytes (← IO.FS.readBinFile name).data.toList
  catch
    | .noFileOrDirectory .. => return .missing
    | e => return .unreadable (systemReason e)

/-- Writes out what a task leaves on its console. -/
def flush (k : Console) : IO Unit := do
  IO.eprint k.err
  unless k.out.isEmpty do
    let out ← IO.getStdout
    out.write ⟨k.out⟩
    out.flush

/-- The system as a host. -/
def system : Host OnSystem where
  task t := do
    match t .endless with
    | .ok a k =>
      OnSystem.lift (flush k)
      return a
    | .error e k =>
      OnSystem.lift (flush k)
      throw e
  readByte := OnSystem.lift do
    return (← (← IO.getStdin).read 1).data.toList.head?
  find name := OnSystem.lift (findFile name)

end Abacus

/-- Runs the program. -/
def main (arguments : List String) : IO UInt32 := do
  match Abacus.Command.read arguments with
  | .ok invocation =>
    let status ← EIO.toIO (fun e => IO.userError e.message)
      (Abacus.Program.performOn Abacus.system invocation)
    return status.toUInt32
  | .error r =>
    IO.eprintln r.message
    return Abacus.Program.refusedStatus.toUInt32
