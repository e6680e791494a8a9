import Mathlib.Logic.Function.Iterate
import ProbeStream.Proofs.Output.Lines
import ProbeStream.Proofs.Stream.Consuming

/-!
# Consuming in turns

A consumer that shares its output with another does not work in one go. In one *turn* it takes a
buffer and decodes it, or it has the output to itself, writes the event that it holds and flushes.
Left alone, it ends after enough turns as consuming ends (`Side.turns_start`).

With a writer that never fails, what is in the output does not matter to it: a turn changes it by
`Side.advance` and adds the lines of the events that it `sends` (`Side.turn_eq`, `Side.turns_eq`).
-/

namespace ProbeStream

variable {τ : Type} {family : Family}

/-- What a consumer does in its next turn. -/
inductive Phase (family : Family) where
  /-- It takes the next buffer. -/
  | ready
  /-- It writes an event. -/
  | holding (event : Event family)
  /-- It does nothing any more. -/
  | ended (result : Except StopReason Nat)

/-- A consumer between two turns, and the buffers that it has not taken yet. -/
structure Side (family : Family) where
  consumer : Consumer
  waiting : List Bytes
  phase : Phase family

namespace Side

def start (order : ByteOrder) (buffers : List Bytes) : Side family :=
  ⟨.start order, buffers, .ready⟩

/-- Takes a buffer and decodes it, or finds that there are no more. -/
def receive (side : Side family) : Side family :=
  match side.waiting with
  | [] =>
    let (result, log, _) := Consumer.close family (none, side.consumer, ())
    ⟨{ side.consumer with log }, [], .ended result⟩
  | raw :: rest =>
    match side.consumer.decoder.decode family raw with
    | (.error failure, decoder) =>
      if failure.isFatal then
        ⟨{ side.consumer with decoder }, rest, .ended (.error (.stream family failure))⟩
      else
        let log := side.consumer.log ++ [⟨.warn, s!"{family.streamName}: {failure.message}"⟩]
        ⟨{ side.consumer with decoder, log }, rest, .ready⟩
    | (.ok event, decoder) => ⟨{ side.consumer with decoder }, rest, .holding event⟩

/-- The event that it held is written. -/
def delivered (side : Side family) : Side family :=
  { side with
    consumer := { side.consumer with written := side.consumer.written + 1 }
    phase := .ready }

/-- One turn. -/
def turn (output : EventOutput τ) (side : Side family) (state : τ) : Side family × τ :=
  match side.phase with
  | .ready => (side.receive, state)
  | .holding event =>
    match output.put event state with
    | (.error failure, state) => ({ side with phase := .ended (.error (.output failure)) }, state)
    | (.ok (), state) => (side.delivered, state)
  | .ended _ => (side, state)

/-- So many turns, without anyone else having one. -/
def turns (output : EventOutput τ) (count : Nat) (side : Side family) (state : τ) :
    Side family × τ :=
  (fun now : Side family × τ => now.1.turn output now.2)^[count] (side, state)

/-! ## Alone -/

variable {output : EventOutput τ}

theorem turns_succ (count : Nat) (side : Side family) (state : τ) :
    side.turns output (count + 1) state =
      (side.turn output state).1.turns output count (side.turn output state).2 := rfl

theorem turns_add (first more : Nat) (side : Side family) (state : τ) :
    side.turns output (first + more) state =
      (side.turns output first state).1.turns output more (side.turns output first state).2 := by
  rw [turns, Nat.add_comm, Function.iterate_add_apply]
  rfl

theorem turns_of_ended {side : Side family} {result : Except StopReason Nat}
    (ended : side.phase = .ended result) (count : Nat) (state : τ) :
    side.turns output count state = (side, state) := by
  have still : side.turn output state = (side, state) := by rw [turn, ended]
  exact Function.iterate_fixed still count

/-- The side when a buffer is dealt with. -/
def after (rest : List Bytes) : Option StopReason × Consumer × τ → Side family × τ
  | (some reason, consumer, state) => (⟨consumer, rest, .ended (.error reason)⟩, state)
  | (none, consumer, state) => (⟨consumer, rest, .ready⟩, state)

/-- A buffer is dealt with in one turn, or in two if an event is written. -/
theorem turns_buffer (output : EventOutput τ) (consumer : Consumer) (raw : Bytes)
    (rest : List Bytes) (state : τ) :
    let ready : Side family := ⟨consumer, raw :: rest, .ready⟩
    ∃ count, count ≤ 2 ∧
      ready.turns output count state =
        after rest (Consumer.step family output consumer raw state) := by
  intro ready
  rcases decoded : consumer.decoder.decode family raw with ⟨failure | event, decoder⟩
  · refine ⟨1, Nat.le_succ 1, ?_⟩
    show ready.turn output state = _
    simp only [ready, turn, receive, Consumer.step, decoded]
    split <;> rfl
  · refine ⟨2, Nat.le_refl 2, ?_⟩
    show ((ready.turn output state).1.turn output (ready.turn output state).2) = _
    simp only [ready, turn, receive, Consumer.step, decoded]
    rcases output.put event state with ⟨failure | ⟨⟩, state⟩ <;> rfl

/-- With enough turns, what is left of the buffers is consumed. -/
theorem turns_ready (consumer : Consumer) (buffers : List Bytes) (state : τ) {count : Nat}
    (enough : 2 * buffers.length < count) :
    let ready : Side family := ⟨consumer, buffers, .ready⟩
    let ending := Consumer.close family (Consumer.run family output consumer buffers state)
    ∃ side : Side family, ready.turns output count state = (side, ending.2.2) ∧
      side.phase = .ended ending.1 ∧ side.consumer.log = ending.2.1 := by
  induction buffers generalizing consumer state count with
  | nil =>
    obtain ⟨more, rfl⟩ := Nat.exists_eq_add_of_lt enough
    let last : Side family := receive ⟨consumer, [], .ready⟩
    have ended : last.phase = .ended (.ok consumer.written) := rfl
    exact ⟨last, turns_of_ended ended _ state, rfl, rfl⟩
  | cons raw rest ih =>
    rw [List.length_cons] at enough
    obtain ⟨taken, atMost, dealtWith⟩ := turns_buffer output consumer raw rest state
    obtain ⟨left, rfl⟩ := Nat.exists_eq_add_of_le (show taken ≤ count by omega)
    intro ready ending
    rw [turns_add, dealtWith]
    simp only [ending, Consumer.run]
    rcases Consumer.step family output consumer raw state with ⟨_ | reason, consumer, state⟩
    · exact ih consumer state (by omega)
    · exact ⟨_, turns_of_ended rfl left state, rfl, rfl⟩

/-- Alone, a consumer ends after enough turns as consuming the buffers ends. -/
theorem turns_start (family : Family) (order : ByteOrder) (output : EventOutput τ)
    (buffers : List Bytes) (state : τ) {count : Nat} (enough : 2 * buffers.length < count) :
    let alone := consume family order output buffers state
    ∃ side : Side family, (start order buffers).turns output count state = (side, alone.2.2) ∧
      side.phase = .ended alone.1 ∧ side.consumer.log = alone.2.1 := by
  rw [consume_eq_close]
  exact turns_ready (.start order) buffers state enough

/-! ## With a writer that never fails -/

/-- The side after a turn in which the output does not fail. -/
def advance (side : Side family) : Side family :=
  match side.phase with
  | .ready => side.receive
  | .holding _ => side.delivered
  | .ended _ => side

/-- The events that are written in a turn. -/
def sends (side : Side family) : List (Event family) :=
  match side.phase with
  | .holding event => [event]
  | _ => []

/-- The events that are written in so many turns. -/
def sent : Nat → Side family → List (Event family)
  | 0, _ => []
  | count + 1, side => side.sends ++ sent count side.advance

theorem sent_add (first more : Nat) (side : Side family) :
    side.sent (first + more) = side.sent first ++ (advance^[first] side).sent more := by
  induction first generalizing side with
  | zero => rw [Nat.zero_add, sent]; rfl
  | succ first ih =>
    rw [Nat.add_right_comm, sent, sent, ih, List.append_assoc]
    rfl

section Ended

variable {side : Side family} {result : Except StopReason Nat}

theorem advance_of_ended (ended : side.phase = .ended result) (count : Nat) :
    advance^[count] side = side := by
  have still : side.advance = side := by rw [advance, ended]
  exact Function.iterate_fixed still count

theorem sent_of_ended (ended : side.phase = .ended result) (count : Nat) :
    side.sent count = [] := by
  have still : side.advance = side := by rw [advance, ended]
  have nothing : side.sends = [] := by rw [sends, ended]
  induction count with
  | zero => rfl
  | succ count ih => rw [sent, still, nothing, ih, List.append_nil]

variable {first other : Nat}

/-- A side that ends has sent everything that it ever sends. -/
theorem sent_within (ended : (advance^[other] side).phase = .ended result) (first : Nat) :
    side.sent first <+: side.sent other := by
  refine ⟨(advance^[first] side).sent other, ?_⟩
  rw [← sent_add, Nat.add_comm, sent_add, sent_of_ended ended, List.append_nil]

/-- It does not matter when a side that has ended is looked at. -/
theorem ended_unique {otherResult : Except StopReason Nat}
    (ended : (advance^[first] side).phase = .ended result)
    (endedToo : (advance^[other] side).phase = .ended otherResult) :
    advance^[first] side = advance^[other] side ∧ side.sent first = side.sent other := by
  constructor
  · rw [← advance_of_ended ended other, ← Function.iterate_add_apply, Nat.add_comm,
      Function.iterate_add_apply, advance_of_ended endedToo]
  · exact (sent_within endedToo first).eq_of_length_le (sent_within ended other).length_le

end Ended

section Endless

open Output (Writer)

variable {writer : Writer τ} {able : τ → Prop} {content : τ → Bytes}

theorem turn_eq (endless : writer.Endless able content) (format : OutputFormat) (side : Side family)
    {state : τ} (begins : able state) :
    ∃ after, side.turn (.lines format writer) state = (side.advance, after) ∧ able after ∧
      content after = content state ++ (side.sends.map format.encoded).flatten := by
  obtain ⟨consumer, waiting, phase⟩ := side
  cases phase with
  | holding event =>
    obtain ⟨after, put, ableAfter, added⟩ := endless.put format event begins
    refine ⟨after, ?_, ableAfter, ?_⟩
    · simp only [turn, put, advance]
    · simpa [sends] using added
  | _ => exact ⟨state, rfl, begins, (List.append_nil _).symm⟩

theorem turns_eq (endless : writer.Endless able content) (format : OutputFormat) (count : Nat)
    (side : Side family) {state : τ} (begins : able state) :
    ∃ after, side.turns (.lines format writer) count state = (advance^[count] side, after) ∧
      able after ∧
      content after = content state ++ ((side.sent count).map format.encoded).flatten := by
  induction count generalizing side state with
  | zero => exact ⟨state, rfl, begins, (List.append_nil _).symm⟩
  | succ count ih =>
    obtain ⟨middle, first, ableMiddle, added⟩ := turn_eq endless format side begins
    obtain ⟨after, others, ableAfter, addedLater⟩ := ih side.advance ableMiddle
    refine ⟨after, ?_, ableAfter, ?_⟩
    · rw [turns_succ, first]
      exact others
    · rw [addedLater, added, sent, List.map_append, List.flatten_append, List.append_assoc]

/-- What consuming all buffers alone comes to, in terms of the turns of a side. -/
theorem consume_eq_sent (endless : writer.Endless able content) (format : OutputFormat)
    (order : ByteOrder) (buffers : List Bytes) {state : τ} (begins : able state) {count : Nat}
    (enough : 2 * buffers.length < count) :
    let alone := consume family order (.lines format writer) buffers state
    let begun : Side family := start order buffers
    (advance^[count] begun).phase = .ended alone.1 ∧
      (advance^[count] begun).consumer.log = alone.2.1 ∧
      content alone.2.2 = content state ++ ((begun.sent count).map format.encoded).flatten := by
  intro alone begun
  obtain ⟨side, consumed, phase, log⟩ :=
    turns_start family order (.lines format writer) buffers state enough
  obtain ⟨after, turned, -, added⟩ := turns_eq endless format count begun begins
  obtain ⟨rfl, rfl⟩ := Prod.mk.inj (consumed.symm.trans turned)
  exact ⟨phase, log, added⟩

end Endless

end Side

end ProbeStream
