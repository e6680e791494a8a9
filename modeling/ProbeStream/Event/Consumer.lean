import ProbeStream.Event.Decoder
import ProbeStream.Log
import ProbeStream.Output.EventOutput

/-!
# Consuming a stream

A consumer takes the buffers of one stream in order, decodes them and writes the events. A
buffer that is too short is reported and left out. The consumer stops early at a late event and
at an output that fails; otherwise it ends with the number of events written.
-/

namespace ProbeStream

/-- Why the program stops. -/
inductive StopReason where
  /-- The user asked for it. -/
  | interrupted
  /-- A stream cannot go on. -/
  | stream (family : Family) (failure : StreamError)
  /-- The rings of a stream can no longer be waited for. -/
  | poll (family : Family) (failure : IoError)
  /-- Events can no longer be written. -/
  | output (failure : IoError)
deriving DecidableEq, Repr

namespace StopReason

def message : StopReason → String
  | .interrupted => "interrupted"
  | .stream family failure => s!"{family.streamName}: {failure.message}"
  | .poll family failure => s!"{family.streamName}: polling failed: {failure.message}"
  | .output failure => s!"writing events failed: {failure.message}"

/-- Whether something went wrong. -/
def isFatal : StopReason → Bool
  | .interrupted => false
  | _ => true

end StopReason

/-- The state of the consumer of one stream. -/
structure Consumer where
  decoder : Decoder
  written : Nat
  log : Log
deriving DecidableEq, Repr

namespace Consumer

variable {τ : Type}

def start (order : ByteOrder) : Consumer := ⟨.start order, 0, []⟩

/-- Takes one buffer. Gives the reason to stop, if there is one. -/
def step (family : Family) (output : EventOutput τ) (consumer : Consumer) (raw : Bytes)
    (state : τ) : Option StopReason × Consumer × τ :=
  match consumer.decoder.decode family raw with
  | (.error failure, decoder) =>
    if failure.isFatal then (some (.stream family failure), { consumer with decoder }, state)
    else
      let log := consumer.log ++ [⟨.warn, s!"{family.streamName}: {failure.message}"⟩]
      (none, { consumer with decoder, log }, state)
  | (.ok event, decoder) =>
    match output.put event state with
    | (.error failure, state) => (some (.output failure), { consumer with decoder }, state)
    | (.ok (), state) =>
      (none, { consumer with decoder, written := consumer.written + 1 }, state)

/-- Takes buffers until there are no more or there is a reason to stop. -/
def run (family : Family) (output : EventOutput τ) :
    Consumer → List Bytes → τ → Option StopReason × Consumer × τ
  | consumer, [], state => (none, consumer, state)
  | consumer, raw :: rest, state =>
    match step family output consumer raw state with
    | (some reason, consumer, state) => (some reason, consumer, state)
    | (none, consumer, state) => run family output consumer rest state

end Consumer

/-- Consumes a whole stream. -/
def consume {τ : Type} (family : Family) (order : ByteOrder) (output : EventOutput τ)
    (buffers : List Bytes) (state : τ) : Except StopReason Nat × Log × τ :=
  match Consumer.run family output (.start order) buffers state with
  | (some reason, consumer, state) => (.error reason, consumer.log, state)
  | (none, consumer, state) =>
    let closed : LogRecord :=
      ⟨.debug, s!"{family.streamName}: channel closed after {consumer.written} events"⟩
    (.ok consumer.written, consumer.log ++ [closed], state)

end ProbeStream
