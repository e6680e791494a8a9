import ProbeStream.Kernel.Basic
import ProbeStream.Perf.Attributes
import ProbeStream.System.Event
import ProbeStream.Text.Utf8

/-!
# The kernel behind system calls

Every request of a load becomes system calls. A program that is refused, other than for want of
permission, is loaded a second time with a buffer for the verifier's messages, only to learn why
it was refused; if that succeeds the new handle is closed at once. The failure that is reported
is always that of the first try.
-/

namespace ProbeStream

namespace SystemKernel

variable {σ : Type}

/-- Bytes in the buffer for the verifier's messages. -/
def verifierLogSize : Nat := 65536

/-- The limit that is no limit. -/
def unlimited : UInt64 := 0xFFFFFFFFFFFFFFFF

/-- The processor on which events of the tracing directory are opened. -/
def tracingCpu : UInt32 := 0

def createMap (system : System σ) (definition : Bpf.MapDefinition) :
    StateM (Machine σ) (Except IoError Handle) := do
  return (← Machine.createMap system (definition.toBytes .host)).mapError .system

def loadCall (request : ProgramRequest) (logSize : Option Nat) : ProgramLoadCall where
  type := request.type
  instructionCount := UInt32.ofNat (request.instructions.length / 8)
  instructions := request.instructions
  license := request.license
  kernelVersion := request.kernelVersion
  logSize

/-- What the verifier writes about a program that was refused. -/
def verifierText (system : System σ) (request : ProgramRequest) :
    StateM (Machine σ) String := do
  match ← Machine.loadProgram system (loadCall request (some verifierLogSize)) with
  | (.ok handle, _) =>
    Machine.closeHandle system handle
    return ""
  | (.error _, written) =>
    return Utf8.decodeLossy (Bytes.beforeNul (written.take verifierLogSize))

/-- Loads a program. A license with a NUL cannot be handed over. -/
def loadProgram (system : System σ) (request : ProgramRequest) :
    StateM (Machine σ) (Except ProgramRefusal Handle) := do
  if '\x00' ∈ request.license.toList then
    return .error ⟨.invalidInput "license contains a NUL byte", ""⟩
  else
    match ← Machine.loadProgram system (loadCall request none) with
    | (.ok handle, _) => return .ok handle
    | (.error code, _) =>
      if code = .notPermitted then return .error ⟨.system code, ""⟩
      else return .error ⟨.system code, ← verifierText system request⟩

/-- Takes away the limit on the memory that may be locked. -/
def raiseMemoryLimit (system : System σ) : StateM (Machine σ) (Except IoError Unit) := do
  match ← Machine.getMemoryLimit system with
  | .error code => return .error (.system code)
  | .ok () => return (← Machine.setMemoryLimit system unlimited unlimited).mapError .system

def openEvent (system : System σ) (id : UInt64) :
    StateM (Machine σ) (Except IoError Handle) := do
  let attributes := (Perf.Attributes.tracepoint id).toBytes .host
  return (← Machine.openEvent system attributes tracingCpu).mapError .system

/-- The kernel that a load over this system talks to. -/
def kernel (system : System σ) : Kernel (Machine σ) where
  createMap := createMap system
  loadProgram := loadProgram system
  raiseMemoryLimit := raiseMemoryLimit system
  openEvent := openEvent system
  enableEvent event := do return (← Machine.enableEvent system event).mapError .system
  attachProgram event program := do
    return (← Machine.setProgram system event program).mapError .system
  closeEvent event enabled := OpenEvent.close system ⟨event, enabled⟩

end SystemKernel

end ProbeStream
