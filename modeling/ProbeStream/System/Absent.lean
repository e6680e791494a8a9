import ProbeStream.System.Basic

/-!
# A system without the calls

A machine on which none of the calls is to be had: each of them is refused as not implemented,
and nothing is ever opened. A load on it gets as far as its first request.
-/

namespace ProbeStream.AbsentSystem

/-- The answer to every call. -/
def refuse {α : Type} : StateM Unit (Except Errno α) := pure (.error .notImplemented)

/-- The answers of a system without the calls. -/
def system : System Unit where
  pageSize := 4096
  createMap _ := refuse
  updateMap _ _ _ := refuse
  loadProgram _ := pure (.error .notImplemented, [])
  openEvent _ _ := refuse
  mapEvent _ _ := refuse
  unmapEvent _ _ := pure ()
  enableEvent _ := refuse
  disableEvent _ := refuse
  setProgram _ _ := refuse
  getMemoryLimit := refuse
  setMemoryLimit _ _ := refuse
  closeHandle _ := pure ()

/-- A machine on which no call was made. -/
def machine : Machine Unit := .start ()

end ProbeStream.AbsentSystem
