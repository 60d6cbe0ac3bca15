import Abacus.Text.Bytes

/-!
# Consoles

A *console* holds what was written to standard output, in bytes, and to
standard error, as text.  Standard output may have room for so many bytes only.
A text that does not fit is written as far as it fits, inside a character if
need be, and then the write fails.  Standard error takes everything.

A *task* acts on a console and may fail.  What was written before the failure
stays written.
-/

namespace Abacus

/-- Why a task could not be finished. -/
inductive Failure
  /-- Standard output took no more, for a reason that it gives. -/
  | refused (reason : String)
  /-- What was read is no text. -/
  | notText
deriving DecidableEq, Repr

/-- What is said about a failure. -/
def Failure.message : Failure → String
  | refused reason => reason
  | notText => "stream did not contain valid UTF-8"

/-- What was written, and what can still be. -/
structure Console where
  /-- The bytes on standard output. -/
  out : Array UInt8
  /-- The text on standard error. -/
  err : String
  /-- How many bytes standard output still takes, if there is an end to them. -/
  room? : Option Nat
  /-- The reason that standard output gives when it takes no more. -/
  reason : String
deriving DecidableEq, Repr

/-- An action on a console that may fail. -/
abbrev Task := EStateM Failure Console

namespace Console

/-- A console that takes everything. -/
def endless : Console :=
  ⟨#[], "", none, ""⟩

/-- A console whose output takes a number of bytes. -/
def limited (room : Nat) : Console :=
  ⟨#[], "", some room, "writer is full"⟩

/-- A console whose output is a full device. -/
def full : Console :=
  ⟨#[], "", some 0, "No space left on device (os error 28)"⟩

/-- The console after bytes were written that fit. -/
def put (bytes : Array UInt8) (k : Console) : Console :=
  { k with out := k.out ++ bytes, room? := k.room?.map (· - bytes.size) }

/-- Whether standard output takes this many bytes. -/
def fits (size : Nat) (k : Console) : Bool :=
  k.room?.all (size ≤ ·)

/-- Everything fits where there is no end to the room. -/
theorem fits_of_room?_eq_none {k : Console} (h : k.room? = none) (size : Nat) :
    k.fits size = true := by
  simp [fits, h]

/-- Bytes fit into limited room when they are no more than it. -/
theorem fits_iff_of_room?_eq_some {k : Console} {room : Nat} (h : k.room? = some room)
    (size : Nat) : k.fits size = true ↔ size ≤ room := by
  simp [fits, h]

end Console

/-- Writes a text to standard output, as far as it fits. -/
def write (text : String) : Task Unit := fun k =>
  let bytes := Text.encode text
  if k.fits bytes.size then .ok () (k.put bytes)
  else .error (.refused k.reason) (k.put (bytes.take (k.room?.getD 0)))

/-- A text that fits is written. -/
theorem write_of_fits {text : String} {k : Console} (h : k.fits (Text.encode text).size = true) :
    write text k = .ok () (k.put (Text.encode text)) := by
  simp [write, h]

/-- A text that does not fit is written as far as it does, and the write fails. -/
theorem write_of_not_fits {text : String} {k : Console}
    (h : k.fits (Text.encode text).size = false) :
    write text k =
      .error (.refused k.reason) (k.put ((Text.encode text).take (k.room?.getD 0))) := by
  simp [write, h]

/-- Writes a text to standard error. -/
def note (text : String) : Task Unit := fun k =>
  .ok () { k with err := k.err ++ text }

end Abacus
