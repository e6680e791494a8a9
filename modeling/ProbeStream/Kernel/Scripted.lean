import ProbeStream.Kernel.Basic
import ProbeStream.Kernel.Script

/-!
# A kernel that follows a script

Every call is decided by the script. A refused program takes the next of the prepared verifier
texts, and an empty one when they are used up.
-/

namespace ProbeStream

/-- The kinds of requests to a kernel. -/
inductive KernelRequest where
  | createMap
  | loadProgram
  | raiseMemoryLimit
  | openEvent
  | enableEvent
  | attachProgram
deriving DecidableEq, Repr

/-- The state of a kernel that follows a script. -/
structure ScriptedKernel where
  script : Script KernelRequest
  verifierTexts : List String

namespace ScriptedKernel

/-- Decides a call that opens nothing. -/
def decide (kind : KernelRequest) : StateM ScriptedKernel (Except IoError Unit) := fun state =>
  let (answer, script) := Script.draw kind state.script
  (answer.mapError .system, { state with script })

/-- Decides a call that opens something. -/
def decideHandle (kind : KernelRequest) : StateM ScriptedKernel (Except IoError Handle) :=
  fun state =>
    let (answer, script) := Script.drawHandle kind state.script
    (answer.mapError .system, { state with script })

def loadProgram : StateM ScriptedKernel (Except ProgramRefusal Handle) := fun state =>
  match decideHandle .loadProgram state with
  | (.ok handle, state) => (.ok handle, state)
  | (.error failure, state) =>
    (.error ⟨failure, state.verifierTexts.headD ""⟩,
      { state with verifierTexts := state.verifierTexts.drop 1 })

/-- The answers of a kernel that follows a script. -/
def kernel : Kernel ScriptedKernel where
  createMap _ := decideHandle .createMap
  loadProgram _ := loadProgram
  raiseMemoryLimit := decide .raiseMemoryLimit
  openEvent _ := decideHandle .openEvent
  enableEvent _ := decide .enableEvent
  attachProgram _ _ := decide .attachProgram
  closeEvent _ _ := pure ()

end ScriptedKernel

end ProbeStream
