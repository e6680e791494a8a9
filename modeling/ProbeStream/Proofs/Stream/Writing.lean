import ProbeStream.Proofs.Stream.Consuming

/-!
# What a consumer writes

`EventOutput.recorded` is an output that also keeps its calls and the answer to each; otherwise it
is as before (`Consumer.run_recorded`). With any output, failing or not, the calls of a consumer
are: for each event in front of the point where it stops, writing the event and flushing. That point
is the first event that is older than the one before it, or the first call that fails (`Outcome`),
and each event is flushed before the next buffer is taken (`consume_recorded`).
-/

namespace ProbeStream

variable {τ : Type} {family : Family}

/-! ## Recording -/

/-- A call of an output. -/
inductive OutputCall where
  | write {family : Family} (event : Event family)
  | flush
deriving DecidableEq, Repr

/-- The state of an output, with the calls that it got and its answers. -/
structure Recording (τ : Type) where
  state : τ
  calls : List (OutputCall × Except IoError Unit)

namespace Recording

/-- The answer to a call, and what is recorded behind it. -/
def answer (recording : Recording τ) (call : OutputCall) (reply : Except IoError Unit × τ) :
    Except IoError Unit × Recording τ :=
  (reply.1, ⟨reply.2, recording.calls ++ [(call, reply.1)]⟩)

end Recording

namespace EventOutput

variable (output : EventOutput τ)

/-- The output that also keeps its calls. -/
def recorded : EventOutput (Recording τ) where
  writeEvent family event recording :=
    recording.answer (.write event) (output.writeEvent family event recording.state)
  flush recording := recording.answer .flush (output.flush recording.state)

theorem put_recorded (event : Event family) (recording : Recording τ) :
    output.put event recording.state =
      ((output.recorded.put event recording).1, (output.recorded.put event recording).2.state) := by
  rw [put, put, recorded]
  simp only [Recording.answer]
  rcases output.writeEvent family event recording.state with ⟨failure | ⟨⟩, after⟩ <;> rfl

end EventOutput

namespace Consumer

variable (output : EventOutput τ)

theorem step_recorded (consumer : Consumer) (raw : Bytes) (recording : Recording τ) :
    let stepped := step family output.recorded consumer raw recording
    step family output consumer raw recording.state =
      (stepped.1, stepped.2.1, stepped.2.2.state) := by
  rw [step, step]
  rcases consumer.decoder.decode family raw with ⟨failure | event, decoder⟩
  · simp only
    split <;> rfl
  · simp only [output.put_recorded event recording]
    rcases output.recorded.put event recording with ⟨failure | ⟨⟩, after⟩ <;> rfl

/-- Recording changes nothing but what is recorded. -/
theorem run_recorded (consumer : Consumer) (buffers : List Bytes) (recording : Recording τ) :
    let ran := run family output.recorded consumer buffers recording
    run family output consumer buffers recording.state = (ran.1, ran.2.1, ran.2.2.state) := by
  induction buffers generalizing consumer recording with
  | nil => rfl
  | cons raw rest ih =>
    simp only [run, step_recorded output consumer raw recording]
    rcases step family output.recorded consumer raw recording with ⟨_ | reason, consumer, after⟩
    · exact ih consumer after
    · rfl

theorem run_append (family : Family) (consumer : Consumer) (first rest : List Bytes) (state : τ) :
    run family output consumer (first ++ rest) state =
      match run family output consumer first state with
      | (some reason, consumer, state) => (some reason, consumer, state)
      | (none, consumer, state) => run family output consumer rest state := by
  induction first generalizing consumer state with
  | nil => rfl
  | cons raw others ih =>
    simp only [List.cons_append, run]
    rcases step family output consumer raw state with ⟨_ | reason, consumer, state⟩
    · exact ih consumer state
    · rfl

end Consumer

/-! ## Calls -/

/-- The calls for an event that is written: it is flushed before anything else. -/
def OutputCall.served (event : Event family) : List (OutputCall × Except IoError Unit) :=
  [(.write event, .ok ()), (.flush, .ok ())]

open OutputCall (served)

/-- How writing some events ends, if the first is judged from `last` on, and the calls until then.
-/
inductive Outcome (last : UInt64) :
    List (Event family) → Except StopReason Nat → List (OutputCall × Except IoError Unit) → Prop
  /-- All are in order and are written. -/
  | closed {events : List (Event family)} (inOrder : InOrder last events) :
      Outcome last events (.ok events.length) (events.flatMap served)
  /-- An event is older than the one before it, and is not written. -/
  | late (front : List (Event family)) {rest : List (Event family)} {event : Event family}
      (inOrder : InOrder last front) (older : event.timestamp < lastSeen last front) :
      Outcome last (front ++ event :: rest)
        (.error (.stream family (.ordering event.timestamp (lastSeen last front))))
        (front.flatMap served)
  /-- Writing an event fails, and nothing is done any more. -/
  | unwritten (front : List (Event family)) {rest : List (Event family)} {event : Event family}
      {failure : IoError} (inOrder : InOrder last (front ++ [event])) :
      Outcome last (front ++ event :: rest) (.error (.output failure))
        (front.flatMap served ++ [(.write event, .error failure)])
  /-- Flushing behind an event fails, and nothing is done any more. -/
  | unflushed (front : List (Event family)) {rest : List (Event family)} {event : Event family}
      {failure : IoError} (inOrder : InOrder last (front ++ [event])) :
      Outcome last (front ++ event :: rest) (.error (.output failure))
        (front.flatMap served ++ [(.write event, .ok ()), (.flush, .error failure)])

namespace Outcome

variable {last : UInt64} {events : List (Event family)}
  {calls : List (OutputCall × Except IoError Unit)}

/-- One more event in front, which is written. -/
theorem cons {event : Event family} {result : Except StopReason Nat}
    (onTime : last ≤ event.timestamp) (outcome : Outcome event.timestamp events result calls) :
    Outcome last (event :: events) (result.map (· + 1)) (served event ++ calls) := by
  cases outcome with
  | closed inOrder => exact closed (inOrder_cons.mpr ⟨onTime, inOrder⟩)
  | late front inOrder older =>
    exact late (event :: front) (inOrder_cons.mpr ⟨onTime, inOrder⟩) older
  | unwritten front inOrder => exact unwritten (event :: front) (inOrder_cons.mpr ⟨onTime, inOrder⟩)
  | unflushed front inOrder => exact unflushed (event :: front) (inOrder_cons.mpr ⟨onTime, inOrder⟩)

theorem calls_of_ok {count : Nat} (outcome : Outcome last events (.ok count) calls) :
    calls = events.flatMap served := by
  cases outcome
  rfl

end Outcome

namespace EventOutput

variable (output : EventOutput τ)

theorem calls_put_recorded (event : Event family) (recording : Recording τ) :
    match output.recorded.put event recording with
    | (.ok (), after) => after.calls = recording.calls ++ served event
    | (.error failure, after) =>
      after.calls = recording.calls ++ [(.write event, .error failure)] ∨
        after.calls = recording.calls ++ [(.write event, .ok ()), (.flush, .error failure)] := by
  rw [put, recorded]
  simp only [Recording.answer]
  rcases output.writeEvent family event recording.state with ⟨failure | ⟨⟩, after⟩
  · exact .inl rfl
  · simp only
    rcases output.flush after with ⟨failure | ⟨⟩, after⟩
    · exact .inr (List.append_assoc recording.calls _ _)
    · exact List.append_assoc recording.calls _ _

/-- Writing events ends in one of the four ways. -/
theorem outcome_writeAll (last : UInt64) (events : List (Event family)) (recording : Recording τ) :
    ∃ calls, (output.recorded.writeAll last events recording).2.calls = recording.calls ++ calls ∧
      Outcome last events (output.recorded.writeAll last events recording).1 calls := by
  induction events generalizing last recording with
  | nil => exact ⟨[], (List.append_nil recording.calls).symm, .closed (.nil last)⟩
  | cons event rest ih =>
    rw [writeAll]
    by_cases late : event.timestamp < last
    · rw [if_pos late]
      exact ⟨[], (List.append_nil recording.calls).symm, .late [] (.nil last) late⟩
    · have onTime : last ≤ event.timestamp := UInt64.not_lt.mp late
      have inOrder : InOrder last ([] ++ [event]) := inOrder_cons.mpr ⟨onTime, .nil event.timestamp⟩
      have added := output.calls_put_recorded event recording
      rw [if_neg late]
      generalize output.recorded.put event recording = put at added ⊢
      obtain ⟨failure | ⟨⟩, after⟩ := put
      · rcases added with added | added
        · exact ⟨_, added, .unwritten [] inOrder⟩
        · exact ⟨_, added, .unflushed [] inOrder⟩
      · obtain ⟨calls, addedLater, outcome⟩ := ih event.timestamp after
        refine ⟨served event ++ calls, ?_, outcome.cons onTime⟩
        exact addedLater.trans (by rw [added, List.append_assoc])

end EventOutput

/-! ## Consuming -/

theorem consume_eq_recorded (family : Family) (order : ByteOrder) (output : EventOutput τ)
    (buffers : List Bytes) (recording : Recording τ) :
    let consumed := consume family order output.recorded buffers recording
    consume family order output buffers recording.state =
      (consumed.1, consumed.2.1, consumed.2.2.state) := by
  simp only [consume, Consumer.run_recorded output (.start order) buffers recording]
  rcases Consumer.run family output.recorded (.start order) buffers recording with
    ⟨_ | reason, consumer, after⟩ <;> rfl

/-- When a consumer has taken some buffers and goes on, each of their events was written and
flushed, and it has made no other calls. -/
theorem Consumer.calls_of_goesOn {output : EventOutput τ} {order : ByteOrder} {buffers : List Bytes}
    {state : τ} {consumer : Consumer} {recording : Recording τ}
    (ran : Consumer.run family output.recorded (.start order) buffers ⟨state, []⟩ =
      (none, consumer, recording)) :
    recording.calls = (eventsIn family order buffers).flatMap served := by
  obtain ⟨calls, added, outcome⟩ :=
    output.outcome_writeAll 0 (eventsIn family order buffers) ⟨state, []⟩
  obtain ⟨log, consumed⟩ := consume_eq_writeAll family order output.recorded buffers ⟨state, []⟩
  have ended : output.recorded.writeAll 0 (eventsIn family order buffers) ⟨state, []⟩ =
      (.ok consumer.written, recording) := by
    rw [consume, ran] at consumed
    exact Prod.ext (congrArg (·.1) consumed).symm (congrArg (·.2.2) consumed).symm
  rw [ended] at added outcome
  rw [added, outcome.calls_of_ok, List.nil_append]

/-- What a consumer does with some buffers, whatever the output answers:

- recording the calls does not change it, and only the events in the buffers count, which are what
  the long ones of them hold;
- the events in front of the stopping point are written and flushed in order, and there are no other
  calls but the one that fails: the stopping point is the first event that is older than the one
  before it, or the first call that fails, and if there is none, all events are counted;
- each event is flushed before the next buffer is taken, and when there is a reason to stop, no more
  buffers are;
- buffers that are too short change nothing but what is told. -/
theorem consume_recorded (family : Family) (order : ByteOrder) (output : EventOutput τ)
    (buffers : List Bytes) (state : τ) :
    let events := eventsIn family order buffers
    let long := buffers.filter fun raw => family.recordSize ≤ raw.length
    let start : Recording τ := ⟨state, []⟩
    ∃ result log recording,
      consume family order output.recorded buffers start = (result, log, recording) ∧
      consume family order output buffers state = (result, log, recording.state) ∧
      events.map .ok = long.map (Event.decode family order) ∧
      Outcome 0 events result recording.calls ∧
      (∀ count, ∃ reason consumer middle,
        Consumer.run family output.recorded (.start order) (buffers.take count) start =
          (reason, consumer, middle) ∧
        (reason = none ∧
            middle.calls = (eventsIn family order (buffers.take count)).flatMap served ∧
            Consumer.run family output.recorded (.start order) buffers start =
              Consumer.run family output.recorded consumer (buffers.drop count) middle ∨
          reason ≠ none ∧
            Consumer.run family output.recorded (.start order) buffers start =
              (reason, consumer, middle))) ∧
      ∃ log, consume family order output.recorded long start = (result, log, recording) := by
  intro events long start
  obtain ⟨log, consumed⟩ := consume_eq_writeAll family order output.recorded buffers start
  obtain ⟨logOfLong, consumedLong⟩ := consume_eq_writeAll family order output.recorded long start
  obtain ⟨calls, added, outcome⟩ := output.outcome_writeAll 0 events start
  rw [List.nil_append] at added
  have plain := consume_eq_recorded family order output buffers start
  rw [consumed] at plain
  refine ⟨_, log, _, consumed, plain, eventsIn_eq_map_filter order buffers, added ▸ outcome, ?_, ?_⟩
  · intro count
    have split := Consumer.run_append output.recorded family (.start order) (buffers.take count)
      (buffers.drop count) start
    rw [List.take_append_drop] at split
    rcases ran : Consumer.run family output.recorded (.start order) (buffers.take count) start with
      ⟨_ | reason, consumer, middle⟩
    · rw [ran] at split
      exact ⟨none, consumer, middle, rfl, .inl ⟨rfl, Consumer.calls_of_goesOn ran, split⟩⟩
    · rw [ran] at split
      exact ⟨some reason, consumer, middle, rfl, .inr ⟨Option.some_ne_none reason, split⟩⟩
  · rw [eventsIn_filter] at consumedLong
    exact ⟨logOfLong, consumedLong⟩

end ProbeStream
