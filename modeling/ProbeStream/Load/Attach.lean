import ProbeStream.Bpf.Category
import ProbeStream.Load.Session
import ProbeStream.Tracefs

/-!
# Loading and attaching a program

A program is loaded, and then hooked up to the event of its category:

- programs of the categories xdp, perf event and socket filter are loaded and left at that;
- a probe is first registered in the tracing directory;
- probes and tracepoints have their event's number read from the tracing directory, and that
  event is opened, enabled, and told to run the program.

A load that fails for want of permission is tried once more, after the limit on locked memory
has been raised.
-/

namespace ProbeStream

/-- A program that the kernel has accepted, and the event that it runs on, if any. -/
structure LoadedProgram where
  sectionName : String
  category : Bpf.Category
  handle : Handle
  event : Option Handle
deriving DecidableEq, Repr

/-- What all programs of one object share. -/
structure Attacher where
  tracefs : Tracefs
  license : String
  kernelVersion : UInt32
deriving DecidableEq, Repr

namespace Attacher

variable {σ : Type}

/-- The error for a program that the verifier refused. -/
def refused (sectionName : String) (refusal : ProgramRefusal) : LoadError :=
  .programLoad sectionName refusal.failure refusal.log

/-- The error for a program that lacked permission when the memory limit could not be raised. -/
def lacksPrivilege (sectionName : String) (refusal : ProgramRefusal) : LoadError :=
  .resource
    (s!"failed to load program `{sectionName}`: " ++
      "insufficient privilege or locked-memory limit")
    refusal.failure

def programRequest (attacher : Attacher) (sectionName : String) (category : Bpf.Category)
    (instructions : Bytes) : ProgramRequest where
  sectionName
  type := category.programType
  instructions
  license := attacher.license
  kernelVersion := attacher.kernelVersion

def load (kernel : Kernel σ) (attacher : Attacher) (sectionName : String)
    (category : Bpf.Category) (instructions : Bytes) : Load σ Handle := do
  let request := attacher.programRequest sectionName category instructions
  match ← Load.request (kernel.loadProgram request) (.loadProgram request) with
  | .ok handle => return handle
  | .error refusal =>
    if refusal.isPermissionDenied then
      Load.note .warn <| s!"loading `{sectionName}` returned EPERM, " ++
        "raising RLIMIT_MEMLOCK and trying again"
      match ← Load.request kernel.raiseMemoryLimit .raiseMemoryLimit with
      | .error failure =>
        Load.note .warn s!"setrlimit() failed: {failure.message}"
        throw (lacksPrivilege sectionName refusal)
      | .ok () =>
        let answer ← Load.request (kernel.loadProgram request) (.loadProgram request)
        Load.require answer (refused sectionName)
    else throw (refused sectionName refusal)

/-- Registers a probe, and says where its number will be. -/
def registerProbe (attacher : Attacher) (kind : ProbeKind) (symbol : String) : Load σ String := do
  let answer ← Load.changeFiles (attacher.tracefs.registerProbe kind symbol)
  Load.require answer (.resource s!"failed to create kprobe '{symbol}'")
  return attacher.tracefs.probeIdPath kind symbol

/-- Where the number of the event of a category is, if the category has an event. A probe is
registered first. -/
def eventIdPath (attacher : Attacher) : Bpf.Category → Load σ (Option String)
  | .kprobe symbol => some <$> attacher.registerProbe .entry symbol
  | .kretprobe symbol => some <$> attacher.registerProbe .exit symbol
  | .tracepoint path => return some (attacher.tracefs.tracepointIdPath path)
  | .xdp => return none
  | .perfEvent => return none
  | .socketFilter => return none

/-- Opens the event of a number, enables it, and lets it run the program. An event for which that
fails is given up at once. -/
def hookUp (kernel : Kernel σ) (sectionName : String) (program : Handle) (id : UInt64) :
    Load σ Handle := do
  let opened ← Load.request (kernel.openEvent id) (.openEvent id)
  let event ← Load.require opened (.resource s!"event {id.toNat} perf_event_open")
  match ← Load.request (kernel.enableEvent event) (.enableEvent event) with
  | .error failure =>
    Load.close kernel event false
    throw (.resource s!"event {id.toNat} enable" failure)
  | .ok () =>
    match ← Load.request (kernel.attachProgram event program) (.attachProgram event program) with
    | .error failure =>
      Load.close kernel event true
      throw (.resource s!"event {id.toNat} attach `{sectionName}`" failure)
    | .ok () =>
      Load.hold event
      return event

/-- Loads a program and hooks it up to the event of its category. -/
def attach (kernel : Kernel σ) (attacher : Attacher) (sectionName : String)
    (category : Bpf.Category) (instructions : Bytes) : Load σ LoadedProgram := do
  let handle ← attacher.load kernel sectionName category instructions
  Load.note .debug s!"loaded `{sectionName}` as {category.describe}"
  match ← attacher.eventIdPath category with
  | none =>
    Load.note .info s!"loaded {category.describe} program `{sectionName}`"
    return { sectionName, category, handle, event := none }
  | some path =>
    let answer ← Load.readFiles fun files => Tracefs.readEventId files path
    let id ← Load.require answer fun fault => .resource fault.attempt fault.failure
    let event ← hookUp kernel sectionName handle id
    Load.note .info s!"attached {category.describe} (event {id.toNat})"
    return { sectionName, category, handle, event := some event }

end Attacher

end ProbeStream
