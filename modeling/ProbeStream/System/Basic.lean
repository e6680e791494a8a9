import ProbeStream.Errno
import ProbeStream.Handle
import ProbeStream.Perf.Area

/-!
# System calls

A system is what the program asks directly: it creates maps, loads programs, opens and maps
events, and says how much memory may be locked. Like a kernel it is given by one answer for each
kind of call, with a state of any type between them.

A *machine* is a system's state together with the calls made so far. Each operation of a machine
makes one call and records it with its answer. The number of a failed request on an event is
passed on only if it is a known one; any other number is passed on as that of success, although
the request has failed.
-/

namespace ProbeStream

/-- The call that loads a program. -/
structure ProgramLoadCall where
  type : UInt32
  instructionCount : UInt32
  instructions : Bytes
  license : String
  kernelVersion : UInt32
  /-- The size of the buffer for what the verifier writes, if it is to write. -/
  logSize : Option Nat
deriving DecidableEq, Repr

/-- The answers of a system whose state is a `σ`. -/
structure System (σ : Type) where
  /-- Bytes in a page, the unit of mappings. -/
  pageSize : UInt64
  createMap : (attributes : Bytes) → StateM σ (Except Errno Handle)
  updateMap : (map : Handle) → (key value : UInt32) → StateM σ (Except Errno Unit)
  /-- The answer, and what was written into the buffer for the verifier. -/
  loadProgram : ProgramLoadCall → StateM σ (Except Errno Handle × Bytes)
  /-- Opens an event for all processes on one processor. -/
  openEvent : (attributes : Bytes) → (cpu : UInt32) → StateM σ (Except Errno Handle)
  /-- Maps so many bytes of an event: a page of counters, then the data. -/
  mapEvent : (length : UInt64) → (event : Handle) → StateM σ (Except Errno Perf.Area)
  unmapEvent : (length : UInt64) → (event : Handle) → StateM σ Unit
  enableEvent : Handle → StateM σ (Except Errno Unit)
  disableEvent : Handle → StateM σ (Except Errno Unit)
  setProgram : (event program : Handle) → StateM σ (Except Errno Unit)
  getMemoryLimit : StateM σ (Except Errno Unit)
  setMemoryLimit : (soft hard : UInt64) → StateM σ (Except Errno Unit)
  /-- Gives a handle back. -/
  closeHandle : Handle → StateM σ Unit

/-- A system call and its answer. -/
inductive SystemCall where
  | createMap (attributes : Bytes) (answer : Except Errno Handle)
  | updateMap (map : Handle) (key value : UInt32) (answer : Except Errno Unit)
  | loadProgram (call : ProgramLoadCall) (answer : Except Errno Handle)
  | openEvent (attributes : Bytes) (cpu : UInt32) (answer : Except Errno Handle)
  | mapEvent (length : UInt64) (event : Handle) (answer : Except Errno Unit)
  | unmapEvent (length : UInt64) (event : Handle)
  | enableEvent (event : Handle) (answer : Except Errno Unit)
  | disableEvent (event : Handle) (answer : Except Errno Unit)
  | setProgram (event program : Handle) (answer : Except Errno Unit)
  | getMemoryLimit (answer : Except Errno Unit)
  | setMemoryLimit (soft hard : UInt64) (answer : Except Errno Unit)
  | closeHandle (handle : Handle)

/-- A system's state and the calls made so far. -/
structure Machine (σ : Type) where
  system : σ
  calls : List SystemCall

namespace Machine

variable {σ α : Type}

/-- A machine on which no call was made. -/
def start (system : σ) : Machine σ := ⟨system, []⟩

/-- Makes a call and records it. -/
def perform (ask : StateM σ α) (record : α → SystemCall) : StateM (Machine σ) α := fun machine =>
  let (answer, system) := ask machine.system
  (answer, ⟨system, machine.calls ++ [record answer]⟩)

/-- Makes a request on an event and records it. -/
def performOnEvent (ask : StateM σ (Except Errno α)) (record : Except Errno α → SystemCall) :
    StateM (Machine σ) (Except Errno α) := do
  return (← perform ask record).mapError Errno.orSuccess

def createMap (system : System σ) (attributes : Bytes) :
    StateM (Machine σ) (Except Errno Handle) :=
  perform (system.createMap attributes) (.createMap attributes)

def updateMap (system : System σ) (map : Handle) (key value : UInt32) :
    StateM (Machine σ) (Except Errno Unit) :=
  perform (system.updateMap map key value) (.updateMap map key value)

def loadProgram (system : System σ) (call : ProgramLoadCall) :
    StateM (Machine σ) (Except Errno Handle × Bytes) :=
  perform (system.loadProgram call) fun answer => .loadProgram call answer.1

def openEvent (system : System σ) (attributes : Bytes) (cpu : UInt32) :
    StateM (Machine σ) (Except Errno Handle) :=
  perform (system.openEvent attributes cpu) (.openEvent attributes cpu)

def mapEvent (system : System σ) (length : UInt64) (event : Handle) :
    StateM (Machine σ) (Except Errno Perf.Area) :=
  perform (system.mapEvent length event) fun answer =>
    .mapEvent length event (answer.map fun _ => ())

/-- Takes the mapping of an event away. -/
def unmapEvent (system : System σ) (length : UInt64) (event : Handle) :
    StateM (Machine σ) Unit :=
  perform (system.unmapEvent length event) fun _ => .unmapEvent length event

/-- Lets an event fire. -/
def enableEvent (system : System σ) (event : Handle) : StateM (Machine σ) (Except Errno Unit) :=
  performOnEvent (system.enableEvent event) (.enableEvent event)

/-- Keeps an event from firing. -/
def disableEvent (system : System σ) (event : Handle) : StateM (Machine σ) (Except Errno Unit) :=
  performOnEvent (system.disableEvent event) (.disableEvent event)

/-- Runs a program whenever an event fires. -/
def setProgram (system : System σ) (event program : Handle) :
    StateM (Machine σ) (Except Errno Unit) :=
  performOnEvent (system.setProgram event program) (.setProgram event program)

/-- Asks how much memory may be locked. -/
def getMemoryLimit (system : System σ) : StateM (Machine σ) (Except Errno Unit) :=
  perform system.getMemoryLimit .getMemoryLimit

/-- Says how much memory may be locked. -/
def setMemoryLimit (system : System σ) (soft hard : UInt64) :
    StateM (Machine σ) (Except Errno Unit) :=
  perform (system.setMemoryLimit soft hard) (.setMemoryLimit soft hard)

/-- Gives a handle back. -/
def closeHandle (system : System σ) (handle : Handle) : StateM (Machine σ) Unit :=
  perform (system.closeHandle handle) fun _ => .closeHandle handle

end Machine

end ProbeStream
