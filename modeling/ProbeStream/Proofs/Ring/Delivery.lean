import ProbeStream.Perf.Buffer
import ProbeStream.Proofs.Ring.Contents
import ProbeStream.Proofs.Ring.Frames

/-!
# Delivery through a ring

A kernel produces whole frames into a ring and a reader takes them out, in any order of their
steps:

- the kernel writes a frame byte after byte at the head, but only if it fits into what the reader
  has left free;
- the reader takes everything up to the head.

Neither the end of the data nor the end of the counters shows: the records that the reads have
returned, with those that still lie in the ring behind them, are the records that were produced,
each once and in order (`returned_append_records`). The proof keeps one invariant, `Delivers`,
which names the frames that are still on their way.
-/

namespace ProbeStream.Perf

/-- What has happened to a ring. -/
structure RingHistory where
  ring : Ring
  /-- The frames that the kernel has written. -/
  produced : List Bytes
  /-- The records that the reads have returned. -/
  returned : List Record

namespace RingHistory

def start (ring : Ring) : RingHistory := ⟨ring, [], []⟩

/-- The kernel writes a frame. -/
def produce (history : RingHistory) (frame : Bytes) : RingHistory where
  ring := { history.ring with area := history.ring.area.push frame }
  produced := history.produced ++ [frame]
  returned := history.returned

def read (history : RingHistory) : RingHistory where
  ring := history.ring.afterRead
  produced := history.produced
  returned := history.returned ++ history.ring.records

/-- Bytes that the reader has not taken out yet. -/
def used (history : RingHistory) : Nat := (history.ring.area.head - history.ring.area.tail).toNat

/-- Bytes that the ring can hold. -/
def capacity (history : RingHistory) : Nat := history.ring.area.data.length

/-- One step of the kernel or of the reader. The kernel writes whole frames, and only where they
fit. -/
inductive Step (history : RingHistory) : RingHistory → Prop
  | produce {frame : Bytes} : IsFrame frame → history.used + frame.length ≤ history.capacity →
      Step history (history.produce frame)
  | read : Step history history.read

/-- The histories of a ring, whatever the order of the steps. -/
inductive Reachable (ring : Ring) : RingHistory → Prop
  | start : Reachable ring (start ring)
  | step {history next : RingHistory} : Reachable ring history → Step history next →
      Reachable ring next

/-- Some frames are still on their way: the ring holds them, and the reads have returned the
records of all frames before them. -/
structure Delivers (history : RingHistory) (pending : List Bytes) : Prop where
  whole : ∀ frame ∈ pending, IsFrame frame
  holds : history.ring.area.Holds pending.flatten
  split : ∃ taken, history.produced = taken ++ pending ∧
    history.returned = taken.map Record.ofFrame

namespace Delivers

variable {history : RingHistory} {pending : List Bytes}

/-- The records that a read would return now are those of the frames on their way. -/
theorem records_eq (delivers : history.Delivers pending) :
    history.ring.records = pending.map Record.ofFrame := by
  rw [Ring.records, delivers.holds.unread_eq, records_flatten delivers.whole]

theorem produce (delivers : history.Delivers pending) {frame : Bytes} (frameWhole : IsFrame frame)
    (room : history.used + frame.length ≤ history.capacity) :
    (history.produce frame).Delivers (pending ++ [frame]) where
  whole := by
    intro other member
    rcases List.mem_append.mp member with old | new
    · exact delivers.whole other old
    · rw [List.mem_singleton.mp new]
      exact frameWhole
  holds := by
    rw [used, delivers.holds.used] at room
    rw [List.flatten_append, List.flatten_singleton]
    exact delivers.holds.push room
  split := by
    obtain ⟨taken, produced, returned⟩ := delivers.split
    refine ⟨taken, ?_, returned⟩
    rw [RingHistory.produce, produced, List.append_assoc]

theorem read (delivers : history.Delivers pending) : history.read.Delivers [] where
  whole := by simp
  holds := delivers.holds.advance
  split := by
    obtain ⟨taken, produced, returned⟩ := delivers.split
    refine ⟨taken ++ pending, ?_, ?_⟩
    · rw [RingHistory.read, produced, List.append_nil]
    · rw [RingHistory.read, returned, delivers.records_eq, List.map_append]

end Delivers

theorem Reachable.delivers {ring : Ring} (ringSize : IsRingSize ring.area.data.length)
    (level : ring.area.head = ring.area.tail) {history : RingHistory}
    (reachable : Reachable ring history) : ∃ pending, history.Delivers pending := by
  -- on the steps of the history; the frames on their way are the witness that changes
  induction reachable with
  | start => exact ⟨[], by simp, .nil ringSize level, [], rfl, rfl⟩
  | step _ step ih =>
    obtain ⟨pending, delivers⟩ := ih
    cases step with
    | produce whole room => exact ⟨_, delivers.produce whole room⟩
    | read => exact ⟨_, delivers.read⟩

/-- Nothing is lost, doubled or reordered on the way through a ring: what the reads have returned,
followed by what a read would return now, is one record for each frame that was produced, in the
order of production. The counters begin at any common value, and they and the frames may run past
the end of the data and past 2^64. -/
theorem returned_append_records {ring : Ring} (ringSize : IsRingSize ring.area.data.length)
    (level : ring.area.head = ring.area.tail) {history : RingHistory}
    (reachable : Reachable ring history) :
    history.returned ++ history.ring.records = history.produced.map Record.ofFrame := by
  obtain ⟨pending, delivers⟩ := reachable.delivers ringSize level
  obtain ⟨taken, produced, returned⟩ := delivers.split
  rw [delivers.records_eq, produced, returned, List.map_append]

/-! ## A frame across both ends -/

/-- A sample of eight bytes. -/
def shortSample : Bytes :=
  [9, 0, 0, 0, 0, 0, 24, 0, 8, 0, 0, 0, 1, 2, 3, 4, 5, 6, 7, 8, 0, 0, 0, 0]

/-- A ring of 32 bytes whose counters stand four bytes before their end, which is also four bytes
before the end of the data. -/
def nearlyWrapped : Ring where
  cpu := 0
  event := ⟨⟨0⟩, true⟩
  length := 0
  area := .fresh 32 (0 - 4)

/-- A sample is written across both ends and read, and then another one is written. -/
def acrossTheEnds : RingHistory :=
  ((start nearlyWrapped).produce shortSample).read.produce shortSample

/-- The sample that lies across both ends is delivered, and the one behind it is on its way. -/
theorem returned_append_records_acrossTheEnds :
    IsRingSize nearlyWrapped.area.data.length ∧
      nearlyWrapped.area.head = nearlyWrapped.area.tail ∧
      Reachable nearlyWrapped acrossTheEnds ∧
      acrossTheEnds.ring.area.head < nearlyWrapped.area.head ∧
      acrossTheEnds.returned ++ acrossTheEnds.ring.records =
        [shortSample, shortSample].map Record.ofFrame := by
  have ringSize : IsRingSize nearlyWrapped.area.data.length := ⟨5, by decide, List.length_replicate⟩
  have whole : IsFrame shortSample := by decide +kernel
  have reachable : Reachable nearlyWrapped acrossTheEnds :=
    ((Reachable.start.step (.produce whole (by decide +kernel))).step .read).step
      (.produce whole (by decide +kernel))
  exact
    ⟨ringSize, rfl, reachable, by decide +kernel, returned_append_records ringSize rfl reachable⟩

end RingHistory

end ProbeStream.Perf
