import ProbeStream.Bpf.MapDefinition
import ProbeStream.Errno
import ProbeStream.Handle

/-!
# Kernels

A kernel is what a load asks for maps, programs and events. It is given by one answer for each
kind of request, and it may keep a state of any type between them. So a statement about every
kernel is a statement about every state type and every choice of answers.

A *call* is a request together with the answer that came back.
-/

namespace ProbeStream

/-- What the verifier is given to load one program. -/
structure ProgramRequest where
  sectionName : String
  type : UInt32
  instructions : Bytes
  license : String
  kernelVersion : UInt32
deriving DecidableEq, Repr

/-- A refused program: the failure, and what the verifier wrote about it. -/
structure ProgramRefusal where
  failure : IoError
  log : String
deriving DecidableEq, Repr

namespace ProgramRefusal

/-- Whether the program was refused for want of privilege or lockable memory. -/
def isPermissionDenied (refusal : ProgramRefusal) : Bool :=
  refusal.failure == .system .notPermitted

end ProgramRefusal

/-- The answers of a kernel whose state is a `σ`. -/
structure Kernel (σ : Type) where
  /-- Creates a map. -/
  createMap : Bpf.MapDefinition → StateM σ (Except IoError Handle)
  /-- Loads a program. -/
  loadProgram : ProgramRequest → StateM σ (Except ProgramRefusal Handle)
  /-- Takes away the limit on the memory that may be locked. -/
  raiseMemoryLimit : StateM σ (Except IoError Unit)
  /-- Opens the event of this number on all processes. -/
  openEvent : UInt64 → StateM σ (Except IoError Handle)
  /-- Lets an event fire. -/
  enableEvent : Handle → StateM σ (Except IoError Unit)
  /-- Runs a program whenever an event fires. -/
  attachProgram : (event program : Handle) → StateM σ (Except IoError Unit)
  /-- Gives up an event, which was enabled or not. -/
  closeEvent : (event : Handle) → (enabled : Bool) → StateM σ Unit

/-- A request to a kernel and its answer. -/
inductive KernelCall where
  | createMap (definition : Bpf.MapDefinition) (answer : Except IoError Handle)
  | loadProgram (request : ProgramRequest) (answer : Except ProgramRefusal Handle)
  | raiseMemoryLimit (answer : Except IoError Unit)
  | openEvent (id : UInt64) (answer : Except IoError Handle)
  | enableEvent (event : Handle) (answer : Except IoError Unit)
  | attachProgram (event program : Handle) (answer : Except IoError Unit)

end ProbeStream
