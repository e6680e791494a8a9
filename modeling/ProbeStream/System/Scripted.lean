import ProbeStream.Kernel.Script
import ProbeStream.System.Basic

/-!
# A system that follows a script

Every call is decided by the script. A refused program writes a prepared text into the buffer for
the verifier, cut to its size. The rings that are mapped are filled as planned, one plan for each
mapping that succeeds; a ring without a plan is empty, with both counters at zero.
-/

namespace ProbeStream

/-- The kinds of system calls that a script decides. -/
inductive SystemRequest where
  | createMap
  | updateMap
  | loadProgram
  | openEvent
  | mapEvent
  | enableEvent
  | disableEvent
  | setProgram
  | getMemoryLimit
  | setMemoryLimit
deriving DecidableEq, Repr

/-- What a ring holds when it is mapped. -/
structure RingPlan where
  /-- Where both counters begin. -/
  start : UInt64
  /-- What is written from there on. -/
  data : Bytes
  /-- Where the head stands afterwards, if not behind the data. -/
  head : Option UInt64
deriving DecidableEq, Repr

namespace RingPlan

/-- The plan of a ring that nothing is said about. -/
def empty : RingPlan := ⟨0, [], none⟩

def area (plan : RingPlan) (size : Nat) : Perf.Area :=
  let written := (Perf.Area.fresh size plan.start).push plan.data
  match plan.head with
  | none => written
  | some head => written.setHead head

end RingPlan

/-- The state of a system that follows a script. -/
structure ScriptedSystem where
  script : Script SystemRequest
  verifierText : Bytes
  rings : List RingPlan

namespace ScriptedSystem

def pageSize : UInt64 := 4096

/-- Decides a call that opens nothing. -/
def decide (kind : SystemRequest) : StateM ScriptedSystem (Except Errno Unit) := fun state =>
  let (answer, script) := Script.draw kind state.script
  (answer, { state with script })

/-- Decides a call that opens something. -/
def decideHandle (kind : SystemRequest) : StateM ScriptedSystem (Except Errno Handle) :=
  fun state =>
    let (answer, script) := Script.drawHandle kind state.script
    (answer, { state with script })

def loadProgram (call : ProgramLoadCall) : StateM ScriptedSystem (Except Errno Handle × Bytes) :=
  fun state =>
    match decideHandle .loadProgram state with
    | (.ok handle, next) => ((.ok handle, []), next)
    | (.error code, next) => ((.error code, state.verifierText.take (call.logSize.getD 0)), next)

/-- Decides the mapping of an event. -/
def mapEvent (length : UInt64) : StateM ScriptedSystem (Except Errno Perf.Area) := fun state =>
  match decide .mapEvent state with
  | (.error code, next) => (.error code, next)
  | (.ok (), next) =>
    let area := (next.rings.headD .empty).area (length - pageSize).toNat
    (.ok area, { next with rings := next.rings.drop 1 })

/-- The answers of a system that follows a script. -/
def system : System ScriptedSystem where
  pageSize
  createMap _ := decideHandle .createMap
  updateMap _ _ _ := decide .updateMap
  loadProgram := loadProgram
  openEvent _ _ := decideHandle .openEvent
  mapEvent length _ := mapEvent length
  unmapEvent _ _ := pure ()
  enableEvent _ := decide .enableEvent
  disableEvent _ := decide .disableEvent
  setProgram _ _ := decide .setProgram
  getMemoryLimit := decide .getMemoryLimit
  setMemoryLimit _ _ := decide .setMemoryLimit
  closeHandle _ := pure ()

end ScriptedSystem

end ProbeStream
