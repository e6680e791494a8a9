import ProbeStream.Log
import ProbeStream.Output.EventOutput
import ProbeStream.Tracefs

/-!
# Configuration

What a tracing session is told: the object to load, where the tracing directory is, how much to
log, how to print, how large the rings are, and which maps carry the events.
-/

namespace ProbeStream

/-- The settings of a tracing session. -/
structure Config where
  objectPath : String
  tracefs : String
  verbosity : Nat
  format : OutputFormat
  /-- Data pages in each ring; a power of two. -/
  pages : UInt64
  v4Map : String
  v6Map : String
deriving DecidableEq, Repr

namespace Config

/-- The settings where nothing is said. -/
def default : Config where
  objectPath := ""
  tracefs := Tracefs.defaultRoot
  verbosity := 0
  format := .text
  pages := 8
  v4Map := Family.v4.streamName
  v6Map := Family.v6.streamName

/-- The least severe records that are shown. -/
def logThreshold (config : Config) : Severity :=
  match config.verbosity with
  | 0 => .warn
  | 1 => .info
  | 2 => .debug
  | _ => .trace

end Config

end ProbeStream
