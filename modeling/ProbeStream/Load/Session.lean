import ProbeStream.Fs.Tree
import ProbeStream.Kernel.Basic
import ProbeStream.Load.Error
import ProbeStream.Log

/-!
# Load sessions

A session is all that a load acts upon: the kernel's state, the files, the calls made so far,
the log, and the events that are held open. A step of a load ends with a result or an error, and
the session goes on from what the step left in either case.
-/

namespace ProbeStream

/-- What a load acts upon. -/
structure Session (σ : Type) where
  kernel : σ
  files : Fs.Tree
  calls : List KernelCall
  log : Log
  /-- The events that run a program and were not given up, in the order in which they were
  opened. -/
  held : List Handle

namespace Session

variable {σ : Type}

/-- A session in which nothing has happened. -/
def start (kernel : σ) (files : Fs.Tree) : Session σ := ⟨kernel, files, [], [], []⟩

end Session

/-- A step of a load. -/
abbrev Load (σ α : Type) := ExceptT LoadError (StateM (Session σ)) α

namespace Load

variable {σ α : Type}

/-- Writes a log record. -/
def note (severity : Severity) (text : String) : Load σ Unit := fun session =>
  (.ok (), { session with log := session.log ++ [⟨severity, text⟩] })

/-- Writes several log records. -/
def noteAll (entries : Log) : Load σ Unit := fun session =>
  (.ok (), { session with log := session.log ++ entries })

/-- Makes a call to the kernel and records it. -/
def request (ask : StateM σ α) (record : α → KernelCall) : Load σ α := fun session =>
  let (answer, kernel) := ask session.kernel
  (.ok answer, { session with kernel, calls := session.calls ++ [record answer] })

/-- Changes the files, if that is possible. -/
def changeFiles (change : Fs.Tree → Except IoError Fs.Tree) : Load σ (Except IoError Unit) :=
  fun session =>
    match change session.files with
    | .error failure => (.ok (.error failure), session)
    | .ok files => (.ok (.ok ()), { session with files })

/-- Looks at the files. -/
def readFiles (view : Fs.Tree → α) : Load σ α := fun session =>
  (.ok (view session.files), session)

/-- Gives up one event, which was enabled or not. -/
def close (kernel : Kernel σ) (event : Handle) (enabled : Bool) : Load σ Unit := fun session =>
  (.ok (), { session with kernel := (kernel.closeEvent event enabled session.kernel).2 })

/-- Remembers an event that now runs a program. -/
def hold (event : Handle) : Load σ Unit := fun session =>
  (.ok (), { session with held := session.held ++ [event] })

/-- The value of an answer; a failed one ends the load with the error made from it. -/
def require {ε : Type} (answer : Except ε α) (explain : ε → LoadError) : Load σ α := fun session =>
  (answer.mapError explain, session)

/-- Gives up the events that are held, in the order in which they were opened. -/
def release (kernel : Kernel σ) (session : Session σ) : Session σ :=
  let closed := session.held.foldl (fun state event => (kernel.closeEvent event true state).2)
    session.kernel
  { session with kernel := closed, held := [] }

end Load

end ProbeStream
