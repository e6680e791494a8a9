import ProbeStream.Proofs.Ring.Frames
import ProbeStream.Proofs.Stream.Batches

/-!
# A drain, ring by ring

The kernel does not wait while a drain goes on. So here a drain is taken apart:

- the poller reads the rings one after the other, and each read is a step of its own;
- with the last read the samples are sorted and handed to the decoder, and the next drain begins;
- between any two reads, a processor may write a sample into its own ring, if it fits. The clock
  of the samples never goes back, whichever processor they come from.

What the steps do is what a drain does if nothing is written in between (`drain_of_reads`).
-/

namespace ProbeStream

open Perf

variable {family : Family}

/-- A sample that a processor has written, and how far the poller was. -/
structure Production where
  arrival : Buffer.Arrival
  payload : Bytes
  /-- How many drains were complete. -/
  drains : Nat
  /-- How many rings the drain that was going on had read. -/
  cursor : Nat
deriving DecidableEq, Repr

namespace Production

/-- The time that stands in the sample. -/
def time (production : Production) : UInt64 := leadingTimestamp production.payload

/-- The number of the drain that finds the sample. It is the one that was going on, unless that had
read the ring already. -/
def batch (production : Production) : Nat :=
  if production.arrival.ring < production.cursor then production.drains + 1 else production.drains

end Production

/-- A poller in the middle of a drain, with the decoder behind it. -/
structure Poller (family : Family) where
  buffer : Buffer
  /-- How many rings the drain has read. -/
  cursor : Nat
  /-- What the drain has found so far. -/
  found : List Record
  decoder : Decoder
  /-- What the decoder has said to each sample. -/
  verdicts : List (Except StreamError (Event family))
  /-- The batches of all complete drains. -/
  delivered : List (List Bytes)
  /-- All samples that were ever written, in the order of time. -/
  produced : List Production

namespace Poller

def start (buffer : Buffer) : Poller family := ⟨buffer, 0, [], .start .host, [], [], []⟩

/-- A processor writes a sample. -/
def append (poller : Poller family) (arrival : Buffer.Arrival) (payload : Bytes) : Poller family :=
  { poller with
    buffer := poller.buffer.arrive arrival
    produced :=
      poller.produced ++ [⟨arrival, payload, poller.delivered.length, poller.cursor⟩] }

def readRing (poller : Poller family) (ring : Ring) : Poller family :=
  { poller with
    buffer := { poller.buffer with
      rings := poller.buffer.rings.set poller.cursor ring.afterRead
      lost := ring.records.foldl (fun total record => total + Buffer.lostCount record)
        poller.buffer.lost }
    cursor := poller.cursor + 1
    found := poller.found ++ ring.records }

/-- The samples that the drain has found, sorted by time. -/
def batch (poller : Poller family) : List Bytes :=
  (poller.found.filterMap Buffer.payload?).mergeSort Buffer.notLater

/-- The drain is complete and its samples go to the decoder. -/
def handOver (poller : Poller family) : Poller family :=
  let (verdicts, decoder) := poller.decoder.decodeAll family poller.batch
  { poller with
    cursor := 0
    found := []
    decoder
    verdicts := poller.verdicts ++ verdicts
    delivered := poller.delivered ++ [poller.batch] }

/-- The drain reads the next ring. If it is the last one, the drain is complete. -/
def read (poller : Poller family) : Poller family :=
  match poller.buffer.rings[poller.cursor]? with
  | none => poller
  | some ring =>
    let next := poller.readRing ring
    if next.cursor = poller.buffer.rings.length then next.handOver else next

/-- What may be written now: one frame with a sample that holds a whole event, not older than any
sample before it, into a ring with room for it. -/
structure Accepts (poller : Poller family) (arrival : Buffer.Arrival) (payload : Bytes) :
    Prop where
  whole : IsFrame arrival.bytes
  sample : Record.ofFrame arrival.bytes = .sample payload
  full : family.recordSize ≤ payload.length
  notOlder : ∀ production ∈ poller.produced, production.time ≤ leadingTimestamp payload
  room : ∃ ring, poller.buffer.rings[arrival.ring]? = some ring ∧
    (ring.area.head - ring.area.tail).toNat + arrival.bytes.length ≤ ring.area.data.length

/-- One step of a processor or of the poller. -/
inductive Step (poller : Poller family) : Poller family → Prop
  | append {arrival : Buffer.Arrival} {payload : Bytes} : poller.Accepts arrival payload →
      Step poller (poller.append arrival payload)
  | read : Step poller poller.read

/-- The states of a poller over some rings, whatever the order of the steps. -/
inductive Reachable (buffer : Buffer) : Poller family → Prop
  | start : Reachable buffer (start buffer)
  | step {poller next : Poller family} : Reachable buffer poller → Step poller next →
      Reachable buffer next

/-! ## Drains without interruption -/

/-- A poller that has read some of its rings, with nothing written in between. -/
def midway (poller : Poller family) (count : Nat) : Poller family :=
  let rings := poller.buffer.rings
  let found := (rings.take count).flatMap Ring.records
  { poller with
    buffer := { poller.buffer with
      rings := (rings.take count).map Ring.afterRead ++ rings.drop count
      lost := found.foldl (fun total record => total + Buffer.lostCount record)
        poller.buffer.lost }
    cursor := count
    found }

theorem length_map_take {rings : List Ring} {count : Nat} (inside : count < rings.length) :
    ((rings.take count).map Ring.afterRead).length = count := by
  rw [List.length_map, List.length_take, Nat.min_eq_left (Nat.le_of_lt inside)]

theorem readRing_midway (poller : Poller family) {count : Nat} {ring : Ring}
    (found : poller.buffer.rings[count]? = some ring) :
    (poller.midway count).readRing ring = poller.midway (count + 1) := by
  obtain ⟨inside, rfl⟩ := List.getElem?_eq_some_iff.mp found
  have length := length_map_take inside
  have rings : ((poller.buffer.rings.take count).map Ring.afterRead ++
      poller.buffer.rings.drop count).set count poller.buffer.rings[count].afterRead =
        (poller.buffer.rings.take (count + 1)).map Ring.afterRead ++
          poller.buffer.rings.drop (count + 1) := by
    rw [List.set_append_right _ _ (Nat.le_of_eq length), length, Nat.sub_self,
      List.drop_eq_getElem_cons inside, List.set_cons_zero, List.take_succ_eq_append_getElem inside,
      List.map_append, List.append_assoc]
    rfl
  have records : (poller.buffer.rings.take (count + 1)).flatMap Ring.records =
      (poller.buffer.rings.take count).flatMap Ring.records ++
        poller.buffer.rings[count].records := by
    rw [List.take_succ_eq_append_getElem inside, List.flatMap_append, List.flatMap_singleton]
  simp only [readRing, midway, rings, records, List.foldl_append]

theorem read_midway (poller : Poller family) {count : Nat}
    (inside : count < poller.buffer.rings.length) :
    (poller.midway count).read =
      if count + 1 = poller.buffer.rings.length then (poller.midway (count + 1)).handOver
      else poller.midway (count + 1) := by
  have found := List.getElem?_eq_getElem inside
  have length : (poller.midway count).buffer.rings.length = poller.buffer.rings.length := by
    simp only [midway, List.length_append, List.length_map, List.length_take, List.length_drop]
    omega
  have next : (poller.midway count).buffer.rings[(poller.midway count).cursor]? =
      poller.buffer.rings[count]? := by
    show ((poller.buffer.rings.take count).map Ring.afterRead ++
      poller.buffer.rings.drop count)[count]? = poller.buffer.rings[count]?
    have length := length_map_take inside
    rw [List.getElem?_append_right (Nat.le_of_eq length), length, Nat.sub_self, List.getElem?_drop,
      Nat.add_zero]
  rw [read, next, found]
  simp only [readRing_midway poller found, length]
  rfl

/-- Reading all rings, with nothing written in between, is a drain: the batch is what the drain
returns, and the buffer is what it leaves. -/
theorem drain_of_reads (poller : Poller family) (idle : poller.cursor = 0 ∧ poller.found = [])
    (some : 0 < poller.buffer.rings.length) :
    let drained := Nat.repeat read poller.buffer.rings.length poller
    drained.buffer = poller.buffer.drain.2.1 ∧
      drained.delivered = poller.delivered ++ [poller.buffer.drain.1] := by
  have halfway : ∀ count < poller.buffer.rings.length,
      Nat.repeat read count poller = poller.midway count := by
    intro count inside
    induction count with
    | zero =>
      obtain ⟨cursor, found⟩ := idle
      cases poller
      simp_all [Nat.repeat, midway]
    | succ count ih =>
      rw [Nat.repeat, ih (by omega), read_midway poller (by omega), if_neg (by omega)]
  obtain ⟨count, length⟩ := Nat.exists_eq_add_one.mpr some
  have last : Nat.repeat read poller.buffer.rings.length poller =
      (poller.midway poller.buffer.rings.length).handOver := by
    rw [length, Nat.repeat, halfway count (by omega), read_midway poller (by omega),
      if_pos length.symm]
  intro drained
  constructor
  · simp [drained, last, handOver, midway, Buffer.drain]
  · simp [drained, last, handOver, midway, Buffer.drain, batch]

end Poller

end ProbeStream
