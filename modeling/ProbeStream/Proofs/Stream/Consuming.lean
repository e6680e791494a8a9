import ProbeStream.Event.Consumer
import ProbeStream.Proofs.Stream.Order

/-!
# Consuming and writing

A consumer decodes its buffers and writes the events. `EventOutput.writeAll` does the second without
the first: it takes events, and nothing but the events in the buffers counts for the result of a
consumer and for what it has written (`Consumer.close_run`, `consume_eq_writeAll`).

With an output that never fails only a late event ends a consumer early. What it has written are
then the accepted events of its buffers, in order, and its reason to stop is the complaint about the
first event out of order (`consume_of_reliable`).
-/

namespace ProbeStream

variable {τ : Type} {family : Family}

namespace EventOutput

/-- Writes and flushes one event after the other until there are no more, one is older than the one
before it, or the output fails. Gives the number of the events, or the reason to stop. -/
def writeAll (output : EventOutput τ) :
    (last : UInt64) → List (Event family) → τ → Except StopReason Nat × τ
  | _, [], state => (.ok 0, state)
  | last, event :: rest, state =>
    if event.timestamp < last then
      (.error (.stream family (.ordering event.timestamp last)), state)
    else
      match output.put event state with
      | (.error failure, state) => (.error (.output failure), state)
      | (.ok (), state) =>
        let (result, state) := output.writeAll event.timestamp rest state
        (result.map (· + 1), state)

/-- The output never fails, whatever its state. -/
structure Reliable (output : EventOutput τ) : Prop where
  writes : ∀ (family : Family) (event : Event family) (state : τ),
    (output.writeEvent family event state).1 = .ok ()
  flushes : ∀ state : τ, (output.flush state).1 = .ok ()

/-- The state after some events were written and flushed, one after the other. -/
def putAll (output : EventOutput τ) (events : List (Event family)) (state : τ) : τ :=
  events.foldl (fun state event => (output.put event state).2) state

theorem Reliable.put_eq {output : EventOutput τ} (reliable : output.Reliable)
    (event : Event family) (state : τ) :
    output.put event state = (.ok (), (output.put event state).2) := by
  refine Prod.ext ?_ rfl
  have written := reliable.writes family event state
  unfold put
  split
  · next failure next equation =>
    rw [equation] at written
    exact absurd written (by simp)
  · next next equation => exact reliable.flushes next

theorem Reliable.writeAll_eq {output : EventOutput τ} (reliable : output.Reliable) (last : UInt64)
    (events : List (Event family)) (state : τ) :
    output.writeAll last events state =
      (match refusal? last events with
        | none => .ok (accepted last events).length
        | some failure => .error (.stream family failure),
        output.putAll (accepted last events) state) := by
  induction events generalizing last state with
  | nil => rfl
  | cons event rest ih =>
    rw [writeAll, refusal?, accepted]
    by_cases late : event.timestamp < last
    · rw [if_pos late, if_pos late, if_pos late]
      rfl
    · rw [if_neg late, if_neg late, if_neg late, reliable.put_eq event state]
      simp only [ih]
      cases refusal? event.timestamp rest <;> rfl

end EventOutput

namespace Consumer

variable {output : EventOutput τ}

/-- The consumer when it judges later events from the time of this one. -/
def advance (consumer : Consumer) (event : Event family) : Consumer :=
  { consumer with decoder := { consumer.decoder with lastTimestamp := event.timestamp } }

/-- The consumer after it has written an event. -/
def accept (consumer : Consumer) (event : Event family) : Consumer :=
  { consumer.advance event with written := consumer.written + 1 }

theorem step_of_short (consumer : Consumer) {raw : Bytes} (state : τ)
    (short : ¬ family.recordSize ≤ raw.length) :
    ∃ log, step family output consumer raw state = (none, { consumer with log }, state) := by
  let failure := StreamError.decode family.recordSize raw.length
  refine ⟨consumer.log ++ [⟨.warn, s!"{family.streamName}: {failure.message}"⟩], ?_⟩
  rw [step, Decoder.decode_of_error (Event.decode_of_short short)]
  rfl

/-- An event that is older than the one before it stops the consumer, and is not written. -/
theorem step_of_late (consumer : Consumer) {raw : Bytes} (state : τ)
    (enough : family.recordSize ≤ raw.length)
    (late : (Event.ofRecord consumer.decoder.order raw enough).timestamp <
      consumer.decoder.lastTimestamp) :
    step family output consumer raw state =
      (some (.stream family (.ordering
          (Event.ofRecord consumer.decoder.order raw enough).timestamp
          consumer.decoder.lastTimestamp)),
        consumer, state) := by
  rw [step, Decoder.decode_of_late (Event.decode_of_long enough) late]
  rfl

/-- Any other event is written, and later ones are judged from its time. -/
theorem step_of_onTime (consumer : Consumer) {raw : Bytes} (state : τ)
    (enough : family.recordSize ≤ raw.length)
    (onTime : ¬ (Event.ofRecord consumer.decoder.order raw enough).timestamp <
      consumer.decoder.lastTimestamp) :
    let event := Event.ofRecord consumer.decoder.order raw enough
    step family output consumer raw state =
      match output.put event state with
      | (.error failure, state) => (some (.output failure), consumer.advance event, state)
      | (.ok (), state) => (none, consumer.accept event, state) := by
  intro event
  rw [step, Decoder.decode_of_onTime (Event.decode_of_long enough) onTime]
  rfl

/-- How a consumer that has stopped, or has no more buffers, ends. -/
def close (family : Family) :
    Option StopReason × Consumer × τ → Except StopReason Nat × Log × τ
  | (some reason, consumer, state) => (.error reason, consumer.log, state)
  | (none, consumer, state) =>
    let closed : LogRecord :=
      ⟨.debug, s!"{family.streamName}: channel closed after {consumer.written} events"⟩
    (.ok consumer.written, consumer.log ++ [closed], state)

/-- Only the events in the buffers count for how a consumer ends. -/
theorem close_run (family : Family) (output : EventOutput τ) (consumer : Consumer)
    (buffers : List Bytes) (state : τ) :
    let written := output.writeAll consumer.decoder.lastTimestamp
      (eventsIn family consumer.decoder.order buffers) state
    let ending := close family (run family output consumer buffers state)
    ending.1 = written.1.map (consumer.written + ·) ∧ ending.2.2 = written.2 := by
  induction buffers generalizing consumer state with
  | nil => exact ⟨rfl, rfl⟩
  | cons raw rest ih =>
    by_cases enough : family.recordSize ≤ raw.length
    · rw [eventsIn_cons_of_long enough, run, EventOutput.writeAll]
      by_cases late :
          (Event.ofRecord consumer.decoder.order raw enough).timestamp <
            consumer.decoder.lastTimestamp
      · rw [step_of_late consumer state enough late, if_pos late]
        exact ⟨rfl, rfl⟩
      · rw [step_of_onTime consumer state enough late, if_neg late]
        rcases output.put (Event.ofRecord consumer.decoder.order raw enough) state with
          ⟨failure | ⟨⟩, after⟩
        · exact ⟨rfl, rfl⟩
        · -- one event is written, and the consumer after it meets the rest of the buffers
          let event := Event.ofRecord consumer.decoder.order raw enough
          let written := output.writeAll event.timestamp
            (eventsIn family consumer.decoder.order rest) after
          obtain ⟨result, state⟩ := ih (consumer.accept event) after
          refine ⟨result.trans ?_, state⟩
          show written.1.map (consumer.written + 1 + ·) =
            (written.1.map (· + 1)).map (consumer.written + ·)
          cases written.1 with
          | error reason => rfl
          | ok count => exact congrArg Except.ok (Nat.add_right_comm consumer.written 1 count)
    · rw [eventsIn_cons_of_short enough]
      obtain ⟨log, told⟩ := step_of_short consumer state enough
      rw [run, told]
      exact ih { consumer with log } state

end Consumer

theorem consume_eq_close (family : Family) (order : ByteOrder) (output : EventOutput τ)
    (buffers : List Bytes) (state : τ) :
    consume family order output buffers state =
      Consumer.close family (Consumer.run family output (.start order) buffers state) := by
  rw [consume]
  rcases Consumer.run family output (.start order) buffers state with
    ⟨_ | reason, consumer, after⟩ <;> rfl

/-- Consuming a whole stream is writing the events in it. -/
theorem consume_eq_writeAll (family : Family) (order : ByteOrder) (output : EventOutput τ)
    (buffers : List Bytes) (state : τ) :
    ∃ log, consume family order output buffers state =
      ((output.writeAll 0 (eventsIn family order buffers) state).1, log,
        (output.writeAll 0 (eventsIn family order buffers) state).2) := by
  obtain ⟨result, after⟩ := Consumer.close_run family output (.start order) buffers state
  rw [consume_eq_close]
  refine ⟨_, Prod.ext (result.trans ?_) (Prod.ext rfl after)⟩
  show Except.map (0 + ·) (output.writeAll 0 (eventsIn family order buffers) state).1 = _
  cases (output.writeAll 0 (eventsIn family order buffers) state).1 with
  | error reason => rfl
  | ok count => exact congrArg Except.ok (Nat.zero_add count)

/-- The result of consuming a whole stream, and what it has written. -/
theorem consume_of_reliable (family : Family) {output : EventOutput τ} (reliable : output.Reliable)
    (order : ByteOrder) (buffers : List Bytes) (state : τ) :
    let events := eventsIn family order buffers
    ∃ log, consume family order output buffers state =
      (match refusal? 0 events with
        | none => .ok (accepted 0 events).length
        | some failure => .error (.stream family failure),
        log, output.putAll (accepted 0 events) state) := by
  obtain ⟨log, consumed⟩ := consume_eq_writeAll family order output buffers state
  refine ⟨log, ?_⟩
  rw [consumed, reliable.writeAll_eq]

end ProbeStream
