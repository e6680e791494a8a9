import Mathlib.Data.List.Basic
import ProbeStream.Perf.Buffer
import ProbeStream.Proofs.Stream.Order

/-!
# Batches in a stream

A stream is made of batches, and each batch is sorted by the first eight bytes of its samples.
In a sample that holds an event these bytes are the event's time, so events of one batch are
always in order: a stream goes back in time only from one batch to a later one
(`inOrder_flatten_iff`).
-/

namespace ProbeStream

open Perf

variable {family : Family}

/-- The samples are sorted by their first eight bytes. -/
def SortedBatch (batch : List Bytes) : Prop :=
  batch.Pairwise fun left right => leadingTimestamp left ≤ leadingTimestamp right

theorem Perf.Buffer.notLater_trans (first second third : Bytes) :
    Buffer.notLater first second → Buffer.notLater second third → Buffer.notLater first third := by
  simp only [Buffer.notLater, decide_eq_true_eq]
  exact UInt64.le_trans

theorem Perf.Buffer.notLater_total (first second : Bytes) :
    Buffer.notLater first second || Buffer.notLater second first := by
  simp only [Buffer.notLater, Bool.or_eq_true, decide_eq_true_eq]
  exact UInt64.le_total _ _

theorem sortedBatch_mergeSort (samples : List Bytes) :
    SortedBatch (samples.mergeSort Buffer.notLater) :=
  (List.pairwise_mergeSort Buffer.notLater_trans Buffer.notLater_total samples).imp
    of_decide_eq_true

/-- What a drain returns is sorted, whatever the rings hold. -/
theorem sortedBatch_drain (buffer : Buffer) : SortedBatch buffer.drain.1 :=
  sortedBatch_mergeSort _

/-- The time by which a sample is sorted is the time of its event. -/
theorem leadingTimestamp_of_long {raw : Bytes} (enough : family.recordSize ≤ raw.length) :
    leadingTimestamp raw = (Event.ofRecord .host raw enough).timestamp := by
  have long : 8 ≤ raw.length := by
    rw [Family.recordSize] at enough
    omega
  rw [leadingTimestamp, if_pos long]
  rfl

/-- Short samples stand anywhere in a sorted batch, but its events are in order. -/
theorem SortedBatch.ascending (family : Family) {batch : List Bytes} (sorted : SortedBatch batch) :
    (eventsIn family .host batch).Pairwise fun earlier later =>
      earlier.timestamp ≤ later.timestamp := by
  induction batch with
  | nil => exact .nil
  | cons raw rest ih =>
    obtain ⟨least, others⟩ := List.pairwise_cons.mp sorted
    by_cases enough : family.recordSize ≤ raw.length
    · rw [eventsIn_cons_of_long enough]
      refine List.pairwise_cons.mpr ⟨?_, ih others⟩
      intro event member
      obtain ⟨other, present, long, rfl⟩ := mem_eventsIn.mp member
      rw [← leadingTimestamp_of_long enough, ← leadingTimestamp_of_long long]
      exact least other present
    · rw [eventsIn_cons_of_short enough]
      exact ih others

/-- An event of batch number `j` is older than an event of an earlier batch. -/
def LateBatch (family : Family) (batches : List (List Bytes)) (j : Nat) : Prop :=
  ∃ i < j, ∃ earlier later, batches[i]? = some earlier ∧ batches[j]? = some later ∧
    ∃ a ∈ eventsIn family .host earlier, ∃ b ∈ eventsIn family .host later,
      b.timestamp < a.timestamp

theorem eventsIn_flatten (order : ByteOrder) (batches : List (List Bytes)) :
    eventsIn family order batches.flatten = (batches.map (eventsIn family order)).flatten :=
  List.filterMap_flatten

/-- Sorted batches make a stream in order exactly if none of them is late. -/
theorem inOrder_flatten_iff {batches : List (List Bytes)}
    (sorted : ∀ batch ∈ batches, SortedBatch batch) :
    InOrder 0 (eventsIn family .host batches.flatten) ↔ ∀ j, ¬ LateBatch family batches j := by
  constructor
  · -- events of two batches stand in the stream in the order of the batches
    rintro inOrder j ⟨i, before, earlier, later, foundEarlier, foundLater, a, inEarlier, b, inLater,
      older⟩
    have ascending := inOrder.ascending
    rw [eventsIn_flatten, List.pairwise_flatten, List.pairwise_map,
      List.pairwise_iff_getElem] at ascending
    obtain ⟨insideEarlier, rfl⟩ := List.getElem?_eq_some_iff.mp foundEarlier
    obtain ⟨insideLater, rfl⟩ := List.getElem?_eq_some_iff.mp foundLater
    exact UInt64.not_le.mpr older
      (ascending.2 i j insideEarlier insideLater before a inEarlier b inLater)
  · -- within a batch the sorting keeps the order, and between two batches nothing is late
    intro onTime
    refine ⟨fun event _ => UInt64.zero_le, ?_⟩
    rw [eventsIn_flatten, List.pairwise_flatten, List.pairwise_map, List.pairwise_iff_getElem]
    constructor
    · intro events member
      obtain ⟨batch, present, rfl⟩ := List.mem_map.mp member
      exact (sorted batch present).ascending family
    · intro i j insideEarlier insideLater before a inEarlier b inLater
      by_contra older
      exact onTime j ⟨i, before, _, _, List.getElem?_eq_getElem insideEarlier,
        List.getElem?_eq_getElem insideLater, a, inEarlier, b, inLater, UInt64.not_le.mp older⟩

/-- Whether a batch is late depends only on it and those before it. -/
theorem LateBatch.of_take {batches : List (List Bytes)} {count j : Nat}
    (late : LateBatch family (batches.take count) j) : j < count ∧ LateBatch family batches j := by
  obtain ⟨i, before, earlier, later, foundEarlier, foundLater, older⟩ := late
  rw [List.getElem?_take] at foundEarlier foundLater
  by_cases inside : j < count
  · rw [if_pos (Nat.lt_trans before inside)] at foundEarlier
    rw [if_pos inside] at foundLater
    exact ⟨inside, i, before, earlier, later, foundEarlier, foundLater, older⟩
  · rw [if_neg inside] at foundLater
    exact absurd foundLater (by simp)

/-! ## Samples for examples -/

/-- The record of an IPv4 event that is all zero but for its time. -/
def timedRecord (time : UInt64) : Bytes := ByteOrder.host.u64 time ++ List.replicate 48 0

/-- A frame with such a record as its sample. -/
def timedFrame (time : UInt64) : Bytes :=
  ByteOrder.host.u32 typeSample ++ ByteOrder.host.u16 0 ++ ByteOrder.host.u16 72 ++
    ByteOrder.host.u32 56 ++ timedRecord time ++ List.replicate 4 0

end ProbeStream
