import ProbeStream.Errno
import ProbeStream.Bytes

/-!
# Sinks

A writer takes bytes, all of them or none if it fails, and can be told to pass them on. A *sink*
is a writer that keeps what it is given, up to a limit: it takes the bytes that still fit and
then fails.
-/

namespace ProbeStream.Output

/-- Something that takes bytes and keeps a state `τ`. -/
structure Writer (τ : Type) where
  write : Bytes → StateM τ (Except IoError Unit)
  flush : StateM τ (Except IoError Unit)

/-- What was written, and when and how writing fails. -/
structure Sink where
  stored : Bytes
  /-- How many more bytes fit; no number means any. -/
  room : Option Nat
  full : Errno
  /-- The failure of passing the bytes on, if that fails. -/
  flushFailure : Option Errno
deriving DecidableEq, Repr

namespace Sink

/-- A sink that never fails. -/
def unlimited : Sink := ⟨[], none, ⟨0⟩, none⟩

/-- Stores what fits, and fails if that is not all. -/
def write (piece : Bytes) : StateM Sink (Except IoError Unit) := fun sink =>
  match sink.room with
  | none => (.ok (), { sink with stored := sink.stored ++ piece })
  | some room =>
    let next := { sink with
      stored := sink.stored ++ piece.take room
      room := some (room - piece.length) }
    if piece.length ≤ room then (.ok (), next) else (.error (.system sink.full), next)

/-- Passes the bytes on. -/
def flush : StateM Sink (Except IoError Unit) := fun sink =>
  match sink.flushFailure with
  | none => (.ok (), sink)
  | some code => (.error (.system code), sink)

def writer : Writer Sink := ⟨write, flush⟩

end Sink

end ProbeStream.Output
