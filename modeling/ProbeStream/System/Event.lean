import ProbeStream.System.Basic

/-!
# Open events

An event that was enabled is disabled again before its handle is given back. The handle of an
event that was never enabled is given back at once.
-/

namespace ProbeStream

/-- An event that is open. -/
structure OpenEvent where
  handle : Handle
  /-- Whether it was ever enabled. -/
  enabled : Bool
deriving DecidableEq, Repr

namespace OpenEvent

variable {σ : Type}

/-- Lets the event fire. -/
def enable (system : System σ) (event : OpenEvent) :
    StateM (Machine σ) (Except Errno Unit × OpenEvent) := do
  match ← Machine.enableEvent system event.handle with
  | .error code => return (.error code, event)
  | .ok () => return (.ok (), { event with enabled := true })

/-- Keeps the event from firing. An event that does not know the request does not fire
anyway. -/
def disable (system : System σ) (event : OpenEvent) : StateM (Machine σ) (Except Errno Unit) := do
  match ← Machine.disableEvent system event.handle with
  | .ok () => return .ok ()
  | .error code => return if code = .noSuchRequest then .ok () else .error code

/-- Gives the event up. -/
def close (system : System σ) (event : OpenEvent) : StateM (Machine σ) Unit := do
  if event.enabled then discard <| event.disable system
  Machine.closeHandle system event.handle

end OpenEvent

end ProbeStream
