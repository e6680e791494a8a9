import ProbeStream.Event.Consumer
import ProbeStream.Perf.Buffer

/-!
# Pipelines

A chain leads from the rings of one event family to the output: a poller drains the rings
whenever they become readable, and a consumer decodes the samples and writes the events. A chain
whose consumer has stopped goes on draining until it finds samples that nobody takes.

The chains of the two families share nothing but the output. Each writes its lines in its own
order, so what one of them does is what it would do alone; here the chain of IPv4 events runs
first.
-/

namespace ProbeStream

variable {σ τ : Type}

/-! ## One chain -/

/-- How far a chain has come. -/
structure Chain (τ : Type) where
  buffer : Perf.Buffer
  consumer : Consumer
  /-- Why the consumer has stopped, if it has. -/
  reason : Option StopReason
  log : Log
  output : τ

namespace Chain

/-- Passes the samples of one wake-up on. -/
def feed (family : Family) (output : EventOutput τ) (chain : Chain τ) (batch : List Bytes) :
    Chain τ :=
  let (reason, consumer, state) := Consumer.run family output chain.consumer batch chain.output
  { chain with consumer, reason, output := state }

/-- Goes through the wake-ups until the chain is told to stop. -/
def follow (family : Family) (output : EventOutput τ) :
    (wakeups : List Perf.Buffer.Wakeup) → Chain τ → Chain τ
  | [], chain => chain
  | .shutdown :: _, chain => chain
  | .readable arrivals :: rest, chain =>
    let (batch, buffer, log) := chain.buffer.wake arrivals
    let drained := { chain with buffer, log := chain.log ++ log }
    if chain.reason.isNone then follow family output rest (drained.feed family output batch)
    else if batch = [] then follow family output rest drained
    else drained

/-- What is told when the poller ends. -/
def lostNotice (family : Family) (lost : UInt64) : Log :=
  if lost = 0 then []
  else [⟨.warn, s!"{family.streamName}: {lost.toNat} events lost in total"⟩]

/-- What is told when the consumer ends without a reason to stop. -/
def closingNotice (family : Family) (chain : Chain τ) : Log :=
  let name := family.streamName
  match chain.reason with
  | some _ => []
  | none =>
    [⟨.debug, s!"{name}: channel closed after {chain.consumer.written} events"⟩,
      ⟨.info, s!"{name}: {chain.consumer.written} events"⟩]

/-- What is told when both ends of a chain are done. -/
def closing (family : Family) (chain : Chain τ) : Log :=
  lostNotice family chain.buffer.lost ++ closingNotice family chain

/-- Runs a chain until it is told to stop. -/
def run (family : Family) (order : ByteOrder) (output : EventOutput τ)
    (wakeups : List Perf.Buffer.Wakeup) (buffer : Perf.Buffer) (state : τ) : Chain τ :=
  let ended := follow family output wakeups ⟨buffer, .start order, none, [], state⟩
  { ended with log := ended.log ++ ended.consumer.log }

end Chain

/-! ## Both chains -/

/-- What the two chains are given: their buffers, and what arrives before each wake-up. The rings
are numbered through both buffers. -/
structure Feeds where
  v4 : Perf.Buffer
  v6 : Perf.Buffer
  batches : List (List Perf.Buffer.Arrival)

namespace Feeds

/-- What arrives in the rings of one family. -/
def arrivals (feeds : Feeds) (family : Family) (batch : List Perf.Buffer.Arrival) :
    List Perf.Buffer.Arrival :=
  let count := feeds.v4.rings.length
  match family with
  | .v4 => batch.filter (·.ring < count)
  | .v6 => (batch.filter (count ≤ ·.ring)).map fun arrival =>
    { arrival with ring := arrival.ring - count }

/-- Why the chain of one family wakes up: for each batch, and then to stop. -/
def wakeups (feeds : Feeds) (family : Family) : List Perf.Buffer.Wakeup :=
  feeds.batches.map (fun batch => .readable (feeds.arrivals family batch)) ++ [.shutdown]

end Feeds

/-- How the two chains ended. -/
structure PipelineEnd (τ : Type) where
  reasons : List StopReason
  /-- What was told while the chains ran. -/
  log : Log
  /-- What was told when they ended. -/
  closing : Log
  output : τ

/-- Runs both chains and gives their buffers up. -/
def runPipeline (system : System σ) (order : ByteOrder) (output : EventOutput τ) (feeds : Feeds)
    (state : τ) : StateM (Machine σ) (PipelineEnd τ) := do
  let v4 := Chain.run .v4 order output (feeds.wakeups .v4) feeds.v4 state
  let v6 := Chain.run .v6 order output (feeds.wakeups .v6) feeds.v6 v4.output
  v4.buffer.close system
  v6.buffer.close system
  return {
    reasons := v4.reason.toList ++ v6.reason.toList
    log := v4.log ++ v6.log
    closing := v4.closing .v4 ++ v6.closing .v6
    output := v6.output }

end ProbeStream
