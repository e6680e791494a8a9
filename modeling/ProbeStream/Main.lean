import ProbeStream.Program
import ProbeStream.System.Absent

/-!
# The command

The command copies the files that its run may look at into a file tree, runs the program on that
tree, and prints what the program printed. The program's changes to the list of probes are
written back. Kernel requests are refused: the runtime has no way to make them.
-/

namespace ProbeStream.Command

/-- Whether a path leads to a directory: only then does something stand below it. -/
def isDirectory (path : String) : IO Bool := do
  match ← (IO.FS.Handle.mk (path ++ "/.") .read).toBaseIO with
  | .ok _ => return true
  | .error _ => return false

/-- Copies a file or an empty directory into a tree. What is not there is left out. -/
def copyInto (path : String) (tree : Fs.Tree) : IO Fs.Tree := do
  if ← isDirectory path then return tree.plantDirectory path
  match ← (IO.FS.readBinFile path).toBaseIO with
  | .ok content => return tree.plantFile path content.toList
  | .error _ => return tree

/-- Copies what a run with some settings may look at. -/
def gather (config : Config) : IO Fs.Tree := do
  let probes := (Tracefs.mk config.tracefs).kprobeEvents
  [config.objectPath, config.tracefs, probes, Program.possibleCpusPath].foldlM
    (fun tree path => copyInto path tree) .scratch

/-- The files of a command line. -/
def filesFor (arguments : List String) : IO Fs.Tree :=
  match CommandLine.parse arguments with
  | .ok config => gather config
  | .error _ => pure .scratch

/-- Writes the list of probes back if the run has changed it. -/
def writeBack (config : Config) (before after : Fs.Tree) : IO Unit := do
  let probes := (Tracefs.mk config.tracefs).kprobeEvents
  match before.read probes, after.read probes with
  | _, .error _ => pure ()
  | .ok old, .ok new =>
    if old != new then IO.FS.writeBinFile probes ⟨new.toArray⟩
  | .error _, .ok new => IO.FS.writeBinFile probes ⟨new.toArray⟩

/-- Prints the log records that the settings let through. -/
def printLog (errors : IO.FS.Stream) (config : Config) (log : Log) : IO Unit :=
  (log.upTo config.logThreshold).forM fun entry =>
    errors.putStrLn s!"[{entry.severity.name}] {entry.text}"

/-- Runs the program and gives its exit code. -/
def run (arguments : List String) : IO UInt32 := do
  let files ← filesFor arguments
  let ended := Program.run AbsentSystem.system arguments [] files AbsentSystem.machine
  let output ← IO.getStdout
  let errors ← IO.getStderr
  if let .ok config := CommandLine.parse arguments then
    writeBack config files ended.files
    printLog errors config ended.log
  output.write ⟨ended.output.toArray⟩
  output.flush
  errors.putStr ended.errors
  return UInt32.ofNat ended.exitCode

end ProbeStream.Command

def main (arguments : List String) : IO UInt32 := ProbeStream.Command.run arguments
