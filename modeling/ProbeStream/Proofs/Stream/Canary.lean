import ProbeStream.Proofs.Stream.Batches
import ProbeStream.Proofs.Stream.Consuming

/-!
# When a stream is refused

A poller drains its rings again and again, and a consumer takes the batches one after the other.
With an output that never fails the consumer complains about the order exactly if some batch holds
an event that is older than an event of an earlier batch. One batch alone never makes it complain,
in whatever order the rings were filled.

The complaint comes with the first event of the first late batch: it names the earliest time of
that batch and the latest time before it, and by then every event of the batches before it is
written, and nothing else (`consume_drained`).

The proof cuts the stream at the first late batch. What stands in front of the cut is in order
(`inOrder_flatten_iff`), so it is accepted and only moves the time from which the batch is judged
(`refusal?_of_late`).
-/

namespace ProbeStream

open Perf

variable {τ : Type} {family : Family}

/-- A stream, cut in front of one of its batches and behind it. -/
theorem flatten_split {batches : List (List Bytes)} {j : Nat} {batch : List Bytes}
    (found : batches[j]? = some batch) :
    batches.flatten = (batches.take j).flatten ++ (batch ++ (batches.drop (j + 1)).flatten) := by
  obtain ⟨inside, rfl⟩ := List.getElem?_eq_some_iff.mp found
  rw [← List.flatten_cons, ← List.flatten_append, ← List.drop_eq_getElem_cons inside,
    List.take_append_drop]

/-- In front of the first late batch everything is in order. -/
theorem inOrder_before {batches : List (List Bytes)} (sorted : ∀ batch ∈ batches, SortedBatch batch)
    {j : Nat} (first : ∀ i < j, ¬ LateBatch family batches i) :
    InOrder 0 (eventsIn family .host (batches.take j).flatten) := by
  refine (inOrder_flatten_iff fun batch member => sorted batch (List.mem_of_mem_take member)).mpr ?_
  intro i late
  obtain ⟨before, late⟩ := late.of_take
  exact first i before late

/-- The events of the first late batch, and those before it: the earliest of the former is older
than the latest of the latter, which is where the stream goes back in time. -/
theorem firstLateBatch {batches : List (List Bytes)} (sorted : ∀ batch ∈ batches, SortedBatch batch)
    {j : Nat} (late : LateBatch family batches j) (first : ∀ i < j, ¬ LateBatch family batches i) :
    ∃ batch time last, batches[j]? = some batch ∧
      IsLeast (times (eventsIn family .host batch)) time ∧
      IsGreatest (times (eventsIn family .host (batches.take j).flatten)) last ∧
      refusal? 0 (eventsIn family .host batches.flatten) = some (.ordering time last) ∧
      accepted 0 (eventsIn family .host batches.flatten) =
        eventsIn family .host (batches.take j).flatten := by
  have inOrder := inOrder_before sorted first
  obtain ⟨i, before, earlier, batch, foundEarlier, found, a, inEarlier, b, inBatch, older⟩ := late
  -- an event of an earlier batch is one of those in front of the cut
  have inFront : a ∈ eventsIn family .host (batches.take j).flatten := by
    rw [eventsIn_flatten]
    refine List.mem_flatten_of_mem (List.mem_map_of_mem ?_) inEarlier
    exact List.mem_of_getElem? ((List.getElem?_take_of_lt before).trans foundEarlier)
  have ascending := (sorted batch (List.mem_of_getElem? found)).ascending family
  cases events : eventsIn family .host batch with
  | nil =>
    rw [events] at inBatch
    cases inBatch
  | cons event rest =>
    rw [events] at ascending inBatch
    have least := isLeast_times_cons ascending
    let last := lastSeen 0 (eventsIn family .host (batches.take j).flatten)
    have goesBack : event.timestamp < last :=
      UInt64.lt_of_le_of_lt (least.2 ⟨b, inBatch, rfl⟩)
        (UInt64.lt_of_lt_of_le older (inOrder.le_lastSeen a inFront))
    refine ⟨batch, event.timestamp, last, found, ?_, ?_, ?_⟩
    · rw [events]
      exact least
    · exact inOrder.isGreatest_lastSeen (List.ne_nil_of_mem inFront)
    · rw [flatten_split found, eventsIn_append, eventsIn_append, events]
      exact refusal?_of_late inOrder goesBack _

/-- Consuming ends with a complaint about the order exactly if some batch is late. -/
theorem consume_ordering_iff (family : Family) {output : EventOutput τ} (reliable : output.Reliable)
    {batches : List (List Bytes)} (sorted : ∀ batch ∈ batches, SortedBatch batch) (state : τ) :
    (∃ time last, (consume family .host output batches.flatten state).1 =
        .error (.stream family (.ordering time last))) ↔
      ∃ j, LateBatch family batches j := by
  obtain ⟨log, consumed⟩ := consume_of_reliable family reliable .host batches.flatten state
  have refused : refusal? 0 (eventsIn family .host batches.flatten) = none ↔
      ∀ j, ¬ LateBatch family batches j := refusal?_eq_none_iff.trans (inOrder_flatten_iff sorted)
  rw [consumed]
  cases failed : refusal? 0 (eventsIn family .host batches.flatten) with
  | none =>
    have onTime := refused.mp failed
    constructor
    · rintro ⟨time, last, impossible⟩
      cases impossible
    · rintro ⟨j, late⟩
      exact absurd late (onTime j)
  | some failure =>
    obtain ⟨time, last, rfl⟩ := eq_ordering_of_refusal? failed
    rw [failed] at refused
    refine ⟨fun _ => ?_, fun _ => ⟨time, last, rfl⟩⟩
    by_contra none
    exact absurd (refused.mpr (not_exists.mp none)) (by simp)

/-- What becomes of batches that were drained from rings with any contents and are consumed in
order, with an output that never fails:

- consuming ends with a complaint about the order exactly if some batch is late;
- one batch alone gives no such complaint;
- if batch `j` is the first late one, then the complaint names the earliest time of the events in
  it and the latest time of the events before it, and the output has got all of the latter and
  nothing else. -/
theorem consume_drained {output : EventOutput τ} (reliable : output.Reliable)
    (buffers : List Buffer) (state : τ) :
    let batches := buffers.map fun buffer => buffer.drain.1
    let outcome := consume family .host output batches.flatten state
    ((∃ time last, outcome.1 = .error (.stream family (.ordering time last))) ↔
        ∃ j, LateBatch family batches j) ∧
      (buffers.length ≤ 1 →
        ¬ ∃ time last, outcome.1 = .error (.stream family (.ordering time last))) ∧
      ∀ j, LateBatch family batches j → (∀ i < j, ¬ LateBatch family batches i) →
        ∃ batch time last, batches[j]? = some batch ∧
          outcome.1 = .error (.stream family (.ordering time last)) ∧
          IsLeast (times (eventsIn family .host batch)) time ∧
          IsGreatest (times (eventsIn family .host (batches.take j).flatten)) last ∧
          outcome.2.2 = output.putAll (eventsIn family .host (batches.take j).flatten) state := by
  intro batches outcome
  have sorted : ∀ batch ∈ batches, SortedBatch batch := by
    intro batch member
    obtain ⟨buffer, _, rfl⟩ := List.mem_map.mp member
    exact sortedBatch_drain buffer
  have fires := consume_ordering_iff family reliable sorted state
  refine ⟨fires, ?_, ?_⟩
  · -- a late batch needs an earlier one
    intro single complaint
    obtain ⟨j, i, before, earlier, later, _, found, _⟩ := fires.mp complaint
    obtain ⟨inside, _⟩ := List.getElem?_eq_some_iff.mp found
    rw [List.length_map] at inside
    omega
  · intro j late first
    obtain ⟨batch, time, last, found, least, greatest, refused, written⟩ :=
      firstLateBatch sorted late first
    obtain ⟨log, consumed⟩ := consume_of_reliable family reliable .host batches.flatten state
    rw [refused, written] at consumed
    exact ⟨batch, time, last, found, congrArg Prod.fst consumed, least, greatest,
      congrArg (·.2.2) consumed⟩

/-! ## Two batches that go back in time -/

/-- An output that keeps the times of the events. -/
def timeKeeper : EventOutput (List UInt64) where
  writeEvent _ event kept := (.ok (), kept ++ [event.timestamp])
  flush kept := (.ok (), kept)

/-- A buffer with one ring, in which one sample lies. -/
def oneSample (time : UInt64) : Buffer where
  name := "tcp_event_v4"
  rings := [{ cpu := 0, event := ⟨⟨3⟩, true⟩, length := 0,
              area := (Area.fresh 128 0).push (timedFrame time) }]
  lost := 0

/-- The second of two batches goes back in time, and is refused. -/
theorem consume_drained_goesBack :
    timeKeeper.Reliable ∧
      let batches := [oneSample 2, oneSample 1].map fun buffer => buffer.drain.1
      let outcome := consume .v4 .host timeKeeper batches.flatten []
      LateBatch .v4 batches 1 ∧ (∀ i < 1, ¬ LateBatch .v4 batches i) ∧
        ([oneSample 2].length ≤ 1 ∧ ¬ ∃ time last,
          (consume .v4 .host timeKeeper [(oneSample 2).drain.1].flatten []).1 =
            .error (.stream .v4 (.ordering time last))) ∧
        ∃ batch time last, batches[1]? = some batch ∧
          outcome.1 = .error (.stream .v4 (.ordering time last)) ∧
          IsLeast (times (eventsIn .v4 .host batch)) time ∧
          IsGreatest (times (eventsIn .v4 .host (batches.take 1).flatten)) last ∧
          outcome.2.2 = timeKeeper.putAll (eventsIn .v4 .host (batches.take 1).flatten) [] := by
  have reliable : timeKeeper.Reliable := ⟨fun _ _ _ => rfl, fun _ => rfl⟩
  have filled (time : UInt64) (events : eventsIn .v4 .host (oneSample time).drain.1 ≠ []) :
      (eventsIn .v4 .host (oneSample time).drain.1).head events ∈
        eventsIn .v4 .host (oneSample time).drain.1 := List.head_mem events
  have late : LateBatch .v4 ([oneSample 2, oneSample 1].map fun buffer => buffer.drain.1) 1 :=
    ⟨0, Nat.one_pos, _, _, rfl, rfl, _, filled 2 (by decide +kernel), _,
      filled 1 (by decide +kernel), by decide +kernel⟩
  have first : ∀ i < 1, ¬ LateBatch .v4
      ([oneSample 2, oneSample 1].map fun buffer => buffer.drain.1) i := by
    rintro i below ⟨k, before, _⟩
    omega
  exact ⟨reliable, late, first,
    ⟨Nat.le_refl 1, (consume_drained reliable [oneSample 2] []).2.1 (Nat.le_refl 1)⟩,
    (consume_drained reliable [oneSample 2, oneSample 1] []).2.2 1 late first⟩

end ProbeStream
