import ProbeStream.Fs.Tree
import ProbeStream.Text.Blank
import ProbeStream.Text.Decimal

/-!
# The tracing control directory

The kernel's tracing facility is a directory. Writing a line into the file `kprobe_events` there
registers a probe, and emptying that file removes all of them. Every event has a directory below
`events`, whose file `id` holds the event's number.
-/

namespace ProbeStream

/-- On which side of a kernel function a probe runs. -/
inductive ProbeKind where
  | entry
  | exit
deriving DecidableEq, Repr

namespace ProbeKind

/-- The letter that stands for the kind in registrations and event names. -/
def letter : ProbeKind → String
  | .entry => "p"
  | .exit => "r"

end ProbeKind

/-- The tracing control directory, by its path. -/
structure Tracefs where
  root : String
deriving DecidableEq, Repr

namespace Tracefs

/-- Where the directory usually is. -/
def defaultRoot : String := "/sys/kernel/debug/tracing"

/-- The file that lists the registered probes. -/
def kprobeEvents (tracefs : Tracefs) : String := Fs.join tracefs.root "kprobe_events"

/-- The line that registers a probe. -/
def registration (kind : ProbeKind) (symbol : String) : String :=
  s!"{kind.letter}:{kind.letter}{symbol} {symbol}\n"

/-- Removes every registered probe. -/
def clearKprobes (tracefs : Tracefs) (files : Fs.Tree) : Except IoError Fs.Tree :=
  files.write tracefs.kprobeEvents []

/-- Registers a probe behind those that are there. -/
def registerProbe (tracefs : Tracefs) (kind : ProbeKind) (symbol : String) (files : Fs.Tree) :
    Except IoError Fs.Tree :=
  files.append tracefs.kprobeEvents (Utf8.encode (registration kind symbol))

/-- The file with the number of a registered probe. -/
def probeIdPath (tracefs : Tracefs) (kind : ProbeKind) (symbol : String) : String :=
  Fs.join (Fs.join (Fs.join tracefs.root "events/kprobes") (kind.letter ++ symbol)) "id"

/-- The file with the number of a tracepoint. -/
def tracepointIdPath (tracefs : Tracefs) (tracepoint : String) : String :=
  Fs.join (Fs.join (Fs.join tracefs.root "events") tracepoint) "id"

/-- Why the number of an event cannot be had. -/
inductive EventIdFault where
  | unreadable (path : String) (failure : IoError)
  | noNumber (path content : String)
deriving DecidableEq, Repr

namespace EventIdFault

/-- What was being done. -/
def attempt : EventIdFault → String
  | .unreadable path _ => s!"failed to open event {path}"
  | .noNumber path _ => s!"read from {path} failed"

def failure : EventIdFault → IoError
  | .unreadable _ failure => failure
  | .noNumber _ content => .invalidData s!"`{content}` is not an event id"

end EventIdFault

/-- The number in the file at `path`: a decimal number below 2^64 between white space. -/
def readEventId (files : Fs.Tree) (path : String) : Except EventIdFault UInt64 :=
  match files.readText path with
  | .error failure => .error (.unreadable path failure)
  | .ok text =>
    let content := Text.trim text.toList
    match Text.Decimal.read? (UInt64.size - 1) content with
    | none => .error (.noNumber path (String.ofList content))
    | some id => .ok (UInt64.ofNat id)

end Tracefs

end ProbeStream
