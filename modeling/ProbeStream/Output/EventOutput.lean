import ProbeStream.Output.Json
import ProbeStream.Output.Sink
import ProbeStream.Text.Utf8

/-!
# Event outputs

An output takes events one by one. The outputs of the program write each event as one line.
-/

namespace ProbeStream

/-- How events are printed. -/
inductive OutputFormat where
  | text
  | json
deriving DecidableEq, Repr

namespace OutputFormat

/-- The name of a format on the command line. -/
def name : OutputFormat → String
  | .text => "text"
  | .json => "json"

def line {family : Family} (format : OutputFormat) (event : Event family) : String :=
  match format with
  | .text => Output.textLine event
  | .json => Output.jsonLine event

end OutputFormat

/-- Something that takes events and keeps a state `τ`. -/
structure EventOutput (τ : Type) where
  writeEvent : (family : Family) → Event family → StateM τ (Except IoError Unit)
  flush : StateM τ (Except IoError Unit)

namespace EventOutput

variable {τ : Type}

def lines (format : OutputFormat) (writer : Output.Writer τ) : EventOutput τ where
  writeEvent _ event := writer.write (Utf8.encode (format.line event))
  flush := writer.flush

/-- Writes an event and flushes, unless writing fails. -/
def put (output : EventOutput τ) {family : Family} (event : Event family) :
    StateM τ (Except IoError Unit) := fun state =>
  match output.writeEvent family event state with
  | (.error failure, state) => (.error failure, state)
  | (.ok (), state) => output.flush state

end EventOutput

end ProbeStream
