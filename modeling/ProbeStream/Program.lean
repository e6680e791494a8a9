import ProbeStream.CommandLine
import ProbeStream.Load.Object
import ProbeStream.Perf.CpuList
import ProbeStream.Pipeline
import ProbeStream.Report
import ProbeStream.System.Kernel

/-!
# The program

The program loads an object, opens a perf buffer for each of the two maps that carry events, and
prints the events until it is interrupted or a stream cannot go on. Whatever it has opened it
gives up at the end: first the perf buffers, then the programs' events.
-/

namespace ProbeStream.Program

variable {σ : Type}

/-- The file that lists the processors there may be. -/
def possibleCpusPath : String := "/sys/devices/system/cpu/possible"

/-- What arrives in the rings once the program is ready, before each time it wakes up. -/
abbrev Arrivals := List (List Perf.Buffer.Arrival)

/-- Why the program has ended before it was interrupted. -/
inductive Abort where
  /-- Something has failed. -/
  | failed (failure : Failure)
  /-- A computation had no result. -/
  | panic (complaint : String)
deriving DecidableEq, Repr

namespace Abort

def exitCode : Abort → Nat
  | .failed _ => 1
  | .panic _ => 101

/-- What the program complains about at its end. -/
def report : Abort → String
  | .failed failure => failure.report
  | .panic complaint => complaint ++ "\n"

/-- A failure because something could not be read or written. -/
def ofIo (message : String) (cause : IoError) : Abort := .failed (.ofIo message cause)

/-- The buffer of a stream was not opened. -/
def ofOpenFault (name : String) : Perf.OpenFault → Abort
  | .failed cause => .ofIo s!"Failed to open perf buffer for `{name}`" cause
  | .overflow => .panic Perf.OpenFault.overflow.message

end Abort

/-- How the program ended. -/
structure Ending (σ : Type) where
  exitCode : Nat
  output : Bytes
  errors : String
  /-- Whether there was a tracing directory, so that loading was tried. -/
  traced : Bool
  files : Fs.Tree
  machine : Machine σ
  log : Log

/-- The processors there may be. -/
def possibleCpus (files : Fs.Tree) : Except IoError (List UInt32) :=
  match files.readText possibleCpusPath with
  | .error failure => .error failure
  | .ok text => (Perf.cpuList text).mapError fun fault => .invalidData fault.message

/-- The map that carries the events of a stream. -/
def eventMap (loaded : LoadedObject) (name : String) : Except Failure Bpf.LiveMap :=
  match loaded.map? name with
  | none => .error (.plain s!"Object has no map named `{name}`")
  | some map =>
    if map.definition.type = .perfEventArray then .ok map
    else .error (.plain
      s!"Map `{name}` is a {map.definition.type.name} map, expected perf_event_array")

def openStream (system : System σ) (loaded : LoadedObject) (name : String) (cpus : List UInt32)
    (pages : UInt64) : StateM (Machine σ) (Except Abort Perf.Buffer × Log) := do
  match eventMap loaded name with
  | .error failure => return (.error (.failed failure), [])
  | .ok map =>
    let (answer, log) ← Perf.Buffer.create system name map.handle cpus pages
    return (answer.mapError (.ofOpenFault name), log)

/-- What the program prints once both streams are open. -/
def ready : String := "Ready.\n"

/-- Prints the events of both streams. Gives what was printed, and why the program ended, if it was
not interrupted. -/
def stream (system : System σ) (config : Config) (feeds : Feeds) :
    StateM (Machine σ) (Option Abort × Bytes × Log) := do
  let output := EventOutput.lines config.format Output.Sink.writer
  let sink := { Output.Sink.unlimited with stored := Utf8.encode ready }
  let ended ← runPipeline system .host output feeds sink
  let abort := (ended.reasons.find? (·.isFatal)).map fun reason =>
    Abort.failed (.plain reason.message)
  let stopping : Log := if abort.isNone then [⟨.debug, "stopping pollers"⟩] else []
  return (abort, ended.output.stored, ended.log ++ stopping ++ ended.closing)

/-- Opens both streams and prints their events. -/
def trace (system : System σ) (config : Config) (arrivals : Arrivals) (loaded : LoadedObject)
    (cpus : List UInt32) : StateM (Machine σ) (Option Abort × Bytes × Log) := do
  match ← openStream system loaded config.v4Map cpus config.pages with
  | (.error abort, log) => return (some abort, [], log)
  | (.ok v4, v4Log) =>
    match ← openStream system loaded config.v6Map cpus config.pages with
    | (.error abort, log) =>
      v4.close system
      return (some abort, [], v4Log ++ log)
    | (.ok v6, v6Log) =>
      let (abort, output, log) ← stream system config ⟨v4, v6, arrivals⟩
      return (abort, output, v4Log ++ v6Log ++ log)

def loadedNotice (loaded : LoadedObject) : LogRecord :=
  let version := Text.Decimal.writeHex loaded.kernelVersion.toNat
  ⟨.info, s!"license `{loaded.license}`, kernel version {version}"⟩

/-- What is told of the processors. -/
def cpusNotice (cpus : List UInt32) : LogRecord :=
  let numbers := ", ".intercalate (cpus.map fun cpu => Text.Decimal.write cpu.toNat)
  ⟨.debug, s!"possible cpus: [{numbers}]"⟩

/-- Traces the events of an object that was loaded. -/
def traceLoaded (system : System σ) (config : Config) (arrivals : Arrivals) (files : Fs.Tree)
    (loaded : LoadedObject) : StateM (Machine σ) (Option Abort × Bytes × Log) := do
  match possibleCpus files with
  | .error failure =>
    return (some (.ofIo "Failed to read possible CPUs" failure), [], [loadedNotice loaded])
  | .ok cpus =>
    let (abort, output, log) ← trace system config arrivals loaded cpus
    return (abort, output, [loadedNotice loaded, cpusNotice cpus] ++ log)

/-- Loads the object and traces its events. -/
def session (system : System σ) (config : Config) (arrivals : Arrivals) (files : Fs.Tree)
    (machine : Machine σ) : Option Abort × Bytes × Log × Session (Machine σ) :=
  let kernel := SystemKernel.kernel system
  match Load.loadFile kernel ⟨config.tracefs⟩ config.objectPath (.start machine files) with
  | (.error failure, ended) =>
    let abort := Abort.failed (.ofLoad s!"Failed to load {config.objectPath}" failure)
    (some abort, [], ended.log, ended)
  | (.ok loaded, loadedSession) =>
    let ((abort, output, log), machine) :=
      traceLoaded system config arrivals loadedSession.files loaded loadedSession.kernel
    let ended := Load.release kernel { loadedSession with kernel := machine }
    (abort, output, ended.log ++ log, ended)

/-- What the program says where there is no tracing directory. -/
def noTracing : String := "System doesn't support BPF\n"

/-- Runs the program with some settings. -/
def runConfig (system : System σ) (config : Config) (arrivals : Arrivals) (files : Fs.Tree)
    (machine : Machine σ) : Ending σ :=
  if files.isDirectory config.tracefs then
    let (abort, output, log, ended) := session system config arrivals files machine
    { exitCode := (abort.map Abort.exitCode).getD 0
      output
      errors := (abort.map Abort.report).getD ""
      traced := true
      files := ended.files
      machine := ended.kernel
      log }
  else
    { exitCode := 1, output := [], errors := noTracing, traced := false, files, machine, log := [] }

/-- What is printed for a command line that gives no settings. -/
def faultOutput : CommandLine.Fault → String
  | .displayHelp => CommandLine.usage
  | .displayVersion => CommandLine.version
  | _ => ""

/-- What is complained about a command line that gives no settings. -/
def faultErrors : CommandLine.Fault → String
  | .displayHelp => ""
  | .displayVersion => ""
  | fault => s!"error: {fault.complaint}\n\n{CommandLine.usage}"

/-- Runs the program with the arguments of its command line. -/
def run (system : System σ) (arguments : List String) (arrivals : Arrivals) (files : Fs.Tree)
    (machine : Machine σ) : Ending σ :=
  match CommandLine.parse arguments with
  | .error fault =>
    { exitCode := fault.exitCode, output := Utf8.encode (faultOutput fault),
      errors := faultErrors fault, traced := false, files, machine, log := [] }
  | .ok config => runConfig system config arrivals files machine

end ProbeStream.Program
