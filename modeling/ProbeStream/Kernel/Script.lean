import ProbeStream.Errno
import ProbeStream.Handle

/-!
# Scripts of failures

A script decides beforehand which calls fail. For each kind of call it holds a list of error
numbers: the first call of that kind takes the first number, the next call the second, and so
on. Zero, like the end of the list, lets the call succeed. A successful call that opens
something gets the next handle; handles are never used again.
-/

namespace ProbeStream

/-- What is still to be decided, for calls of the kinds `κ`. -/
structure Script (κ : Type) where
  nextHandle : UInt32
  failures : κ → List Nat

namespace Script

variable {κ : Type} [DecidableEq κ]

/-- Whether the next call of a kind fails, and with which number. -/
def draw (kind : κ) : StateM (Script κ) (Except Errno Unit) := fun script =>
  let rest : Script κ :=
    { script with
      failures := fun other =>
        if other = kind then (script.failures kind).drop 1 else script.failures other }
  match script.failures kind with
  | [] => (.ok (), rest)
  | 0 :: _ => (.ok (), rest)
  | number :: _ => (.error ⟨number⟩, rest)

/-- The same for a call that opens something: its handle, unless it fails. -/
def drawHandle (kind : κ) : StateM (Script κ) (Except Errno Handle) := fun script =>
  match draw kind script with
  | (.error code, rest) => (.error code, rest)
  | (.ok (), rest) =>
    (.ok ⟨rest.nextHandle⟩, { rest with nextHandle := rest.nextHandle + 1 })

end Script

end ProbeStream
