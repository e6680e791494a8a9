import Mathlib.Data.List.Infix
import ProbeStream.Proofs.Stream.Batches
import ProbeStream.Proofs.Stream.Turns

/-!
# Two chains and one output

The consumers of the two families share an output, and a *schedule* says whose turn it is. The state
of a side depends on the number of its own turns alone, and what is written is an interleaving of
what the two sides send (`Chains.follows_run`). So neither has an effect on the result or on the
lines of the other, and the lines of both stay whole (`Chains.run_interleaved`).
-/

namespace ProbeStream

variable {τ : Type}

/-! ## Interleavings -/

/-- The items can be marked with families so that each family has its part of them, in order. -/
def Interleaved {α : Type} (parts : Family → List α) (whole : List α) : Prop :=
  ∃ marked : List (Family × α), marked.map Prod.snd = whole ∧
    ∀ family, (marked.filter (·.1 = family)).map Prod.snd = parts family

namespace Interleaved

variable {α : Type} {parts later : Family → List α} {whole : List α}

theorem nil : Interleaved (fun _ => []) ([] : List α) := ⟨[], rfl, fun _ => rfl⟩

/-- More items of one family. -/
theorem append (interleaved : Interleaved parts whole) (family : Family) {items : List α}
    (grows : later family = parts family ++ items)
    (others : ∀ other, other ≠ family → later other = parts other) :
    Interleaved later (whole ++ items) := by
  obtain ⟨marked, rfl, split⟩ := interleaved
  have unmarked : (items.map (Prod.mk family)).map Prod.snd = items := by simp [Function.comp_def]
  refine ⟨marked ++ items.map (Prod.mk family), by rw [List.map_append, unmarked], fun other => ?_⟩
  rw [List.filter_append, List.map_append, split]
  by_cases same : other = family
  · subst same
    rw [grows, List.filter_eq_self.mpr (by simp), unmarked]
  · rw [others other same, List.filter_eq_nil_iff.mpr (by simp [Ne.symm same])]
    simp

theorem mem (interleaved : Interleaved parts whole) {item : α} (present : item ∈ whole) :
    ∃ family, item ∈ parts family := by
  obtain ⟨marked, rfl, split⟩ := interleaved
  obtain ⟨⟨family, _⟩, inside, rfl⟩ := List.mem_map.mp present
  refine ⟨family, split family ▸ List.mem_map.mpr ⟨_, List.mem_filter.mpr ⟨inside, ?_⟩, rfl⟩⟩
  simp

end Interleaved

/-! ## The system -/

/-- The consumers of both families and the output that they share. -/
structure Chains (τ : Type) where
  side : (family : Family) → Side family
  state : τ

namespace Chains

def start (order : ByteOrder) (buffers : Family → List Bytes) (state : τ) : Chains τ :=
  ⟨fun family => .start order (buffers family), state⟩

/-- One of them has a turn. -/
def turn (output : EventOutput τ) (chains : Chains τ) (family : Family) : Chains τ :=
  let (side, state) := (chains.side family).turn output chains.state
  ⟨Function.update chains.side family side, state⟩

/-- They have their turns in this order. -/
def run (output : EventOutput τ) (schedule : List Family) (chains : Chains τ) : Chains τ :=
  schedule.foldl (turn output) chains

@[simp] theorem side_turn_self (output : EventOutput τ) (chains : Chains τ) (family : Family) :
    (chains.turn output family).side family =
      ((chains.side family).turn output chains.state).1 := Function.update_self ..

theorem side_turn_of_ne (output : EventOutput τ) (chains : Chains τ) {family other : Family}
    (differs : other ≠ family) : (chains.turn output family).side other = chains.side other :=
  Function.update_of_ne differs ..

/-! ## What every schedule keeps -/

section Endless

open Output (Writer)

variable {writer : Writer τ} {able : τ → Prop} {content : τ → Bytes} {format : OutputFormat}

/-- What is true of the chains after a schedule, if they were `begun` before it. -/
structure Follows (able : τ → Prop) (content : τ → Bytes) (format : OutputFormat) (begun : Chains τ)
    (schedule : List Family) (chains : Chains τ) : Prop where
  sides : ∀ family,
    chains.side family = Side.advance^[schedule.count family] (begun.side family)
  able : able chains.state
  written : ∃ lines, content chains.state = content begun.state ++ lines.flatten ∧
    Interleaved (fun family =>
      ((begun.side family).sent (schedule.count family)).map format.encoded) lines

/-- A turn of one side leaves the other as it is, and adds its lines behind all others. -/
theorem Follows.turn (endless : writer.Endless able content) {begun chains : Chains τ}
    {schedule : List Family} (follows : Follows able content format begun schedule chains)
    (family : Family) :
    Follows able content format begun (schedule ++ [family])
      (chains.turn (.lines format writer) family) := by
  obtain ⟨after, turned, ableAfter, added⟩ :=
    Side.turn_eq endless format (chains.side family) follows.able
  have state : (chains.turn (.lines format writer) family).state = after := congrArg Prod.snd turned
  have own : (schedule ++ [family]).count family = schedule.count family + 1 := by
    rw [List.count_append, List.count_singleton_self]
  have others {other : Family} (differs : other ≠ family) :
      (schedule ++ [family]).count other = schedule.count other := by
    rw [List.count_append, List.count_singleton, if_neg (by simpa using differs.symm), Nat.add_zero]
  obtain ⟨lines, before, interleaved⟩ := follows.written
  refine ⟨fun other => ?_, state ▸ ableAfter,
    lines ++ (chains.side family).sends.map format.encoded, ?_, ?_⟩
  · by_cases same : other = family
    · subst same
      rw [side_turn_self, turned, own, Function.iterate_succ_apply', follows.sides]
    · rw [side_turn_of_ne _ _ same, others same, follows.sides]
  · rw [state, added, before, List.flatten_append, List.append_assoc]
  · refine interleaved.append family ?_ fun other differs => by rw [others differs]
    rw [own, Side.sent_add, List.map_append, ← follows.sides]
    simp [Side.sent]

theorem follows_run (endless : writer.Endless able content) (format : OutputFormat)
    (begun : Chains τ) (schedule : List Family) (begins : able begun.state) :
    Follows able content format begun schedule (begun.run (.lines format writer) schedule) := by
  induction schedule using List.reverseRecOn with
  | nil => exact ⟨fun _ => rfl, begins, [], (List.append_nil _).symm, .nil⟩
  | append_singleton schedule family ih =>
    rw [run, List.foldl_concat]
    exact ih.turn endless family

/-- Two consumers that share an output whose writer never fails do not interfere, whatever buffers
arrive and whoever has the next turn. At any moment the output holds whole lines, an interleaving of
what the two have sent, and what one of them has sent are the first lines that it would write alone.
When it ends, as it does with enough turns, its result, what it has told and its lines are what they
would be if there were no other, so they are the same whether the other goes back in time or not. -/
theorem run_interleaved (endless : writer.Endless able content) (format : OutputFormat)
    (order : ByteOrder) (buffers : Family → List Bytes) (schedule : List Family) (state : τ)
    (begins : able state) (empty : content state = []) :
    let output := EventOutput.lines format writer
    let final := (start order buffers state).run output schedule
    let alone (family : Family) := consume family order output (buffers family) state
    ∃ sent : Family → List Bytes,
      Interleaved sent (cutLines (content final.state)) ∧
      (∀ line ∈ cutLines (content final.state), IsLine line) ∧
      ∀ family,
        sent family <+: cutLines (content (alone family).2.2) ∧
        (∀ result, (final.side family).phase = .ended result →
          result = (alone family).1 ∧ (final.side family).consumer.log = (alone family).2.1 ∧
            sent family = cutLines (content (alone family).2.2)) ∧
        (2 * (buffers family).length < schedule.count family →
          ∃ result, (final.side family).phase = .ended result) := by
  intro output final alone
  let begun (family : Family) : Side family := .start order (buffers family)
  let lines (family : Family) (count : Nat) := ((begun family).sent count).map format.encoded
  have areLines (family : Family) (count : Nat) : ∀ line ∈ lines family count, IsLine line := by
    intro line present
    obtain ⟨event, -, rfl⟩ := List.mem_map.mp present
    exact isLine_encoded format event
  have follows := follows_run endless format (start order buffers state) schedule begins
  obtain ⟨whole, written, interleaved⟩ := follows.written
  have wholeLines : ∀ line ∈ whole, IsLine line := by
    intro line present
    obtain ⟨family, inside⟩ := interleaved.mem present
    exact areLines family _ line inside
  have cut : cutLines (content final.state) = whole := by
    rw [written, show content (start order buffers state).state = [] from empty, List.nil_append,
      cutLines_flatten wholeLines]
  refine ⟨fun family => lines family (schedule.count family), cut ▸ interleaved, cut ▸ wholeLines,
    fun family => ?_⟩
  -- the same side is looked at after its turns in the schedule and after enough turns alone
  have enough : 2 * (buffers family).length < 2 * (buffers family).length + 1 := Nat.lt_succ_self _
  obtain ⟨phase, log, added⟩ :=
    Side.consume_eq_sent endless format order (buffers family) begins enough
  have cutAlone : cutLines (content (alone family).2.2) =
      lines family (2 * (buffers family).length + 1) := by
    rw [added, empty, List.nil_append, cutLines_flatten (areLines family _)]
  rw [cutAlone, follows.sides family]
  refine ⟨(Side.sent_within phase _).map _, fun result ended => ?_, fun turns => ?_⟩
  · obtain ⟨same, sameSent⟩ := Side.ended_unique ended phase
    rw [same] at ended ⊢
    exact ⟨Phase.ended.inj (ended.symm.trans phase), log, congrArg (List.map _) sameSent⟩
  · exact ⟨_, (Side.consume_eq_sent endless format order (buffers family) begins turns).1⟩

end Endless

/-- The IPv4 events go back in time; in front of the IPv6 event is a buffer that is too short. -/
def lateAndShort : Family → List Bytes
  | .v4 => [timedRecord 2, timedRecord 1]
  | .v6 => [[], timedRecord 1 ++ List.replicate 24 0]

/-- Taking turns, the one side is stopped by its late event and the other comes to its end. -/
theorem run_interleaved_lateAndShort :
    let output := EventOutput.lines .text Output.Sink.writer
    let schedule := (List.replicate 5 [Family.v4, Family.v6]).flatten
    let final := (start .host lateAndShort .unlimited).run output schedule
    let alone (family : Family) := consume family .host output (lateAndShort family) .unlimited
    (alone .v4).1 = .error (.stream .v4 (.ordering 1 2)) ∧ (alone .v6).1 = .ok 1 ∧
      ∃ sent : Family → List Bytes,
        Interleaved sent (cutLines final.state.stored) ∧
        ∀ family, (final.side family).phase = .ended (alone family).1 ∧
          sent family = cutLines (alone family).2.2.stored := by
  obtain ⟨sent, interleaved, -, sides⟩ := run_interleaved Output.Sink.endless_writer .text .host
    lateAndShort (List.replicate 5 [Family.v4, Family.v6]).flatten .unlimited ⟨rfl, rfl⟩ rfl
  refine ⟨rfl, rfl, sent, interleaved, fun family => ?_⟩
  obtain ⟨-, same, enough⟩ := sides family
  obtain ⟨result, ended⟩ := enough (by cases family <;> decide)
  obtain ⟨rfl, -, lines⟩ := same result ended
  exact ⟨ended, lines⟩

end Chains

end ProbeStream
