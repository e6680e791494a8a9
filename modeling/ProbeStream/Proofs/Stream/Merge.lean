import Mathlib.Algebra.GroupWithZero.Nat
import Mathlib.Data.List.Nodup
import ProbeStream.Proofs.Ring.Frames
import ProbeStream.Proofs.Stream.Batches

/-!
# A drain is a merge

A drain finds samples in several rings and hands them over as one batch. Here every sample keeps its
origin: the number of its ring, and its number among the records there (`Sample`).

- The batch is the one list of all samples in which time does not go back and samples of one time
  stand in the order of their rings and, within a ring, of their records (`merged`,
  `Sample.Before`).
- The count of lost samples grows by the counts in all rings.
- Every ring is read up to its head, so a second drain finds nothing.
- What lies in one ring changes neither the samples of the other rings nor their order
  (`merged_modifyArea`).

All this is `drain_merges`. That samples of one time keep their order is proved of the sorting alone
(`pairwise_mergeSort_ties`). Two lists in one strict order that have the same members are the same
(`eq_of_before`), so it is enough to know the members of what the other rings hold.
-/

namespace ProbeStream.Perf

/-! ## Ties -/

/-- Items of a list that may stand in either order are left in theirs when the list is sorted. -/
theorem pairwise_mergeSort_ties {α : Type} {le : α → α → Bool} {before : α → α → Prop}
    (trans : ∀ first second third, le first second → le second third → le first third)
    (total : ∀ first second, le first second || le second first) {list : List α}
    (ordered : list.Pairwise before) :
    (list.mergeSort le).Pairwise fun first second => le second first → before first second := by
  -- the head of a list goes to a place in front of which no item may stand behind it
  induction list with
  | nil => simp
  | cons head rest ih =>
    obtain ⟨behindHead, others⟩ := List.pairwise_cons.mp ordered
    obtain ⟨front, back, sorted, sortedRest, late⟩ := List.mergeSort_cons trans total head rest
    have kept := ih others
    rw [sortedRest, List.pairwise_append] at kept
    obtain ⟨inFront, inBack, across⟩ := kept
    rw [sorted, List.pairwise_append, List.pairwise_cons]
    refine ⟨inFront, ⟨?_, inBack⟩, ?_⟩
    · intro other member _
      have found : other ∈ rest.mergeSort le := sortedRest ▸ List.mem_append_right front member
      exact behindHead other (List.mem_mergeSort.mp found)
    · intro first before second member tie
      rcases List.mem_cons.mp member with rfl | behind
      · exact absurd tie (by simpa using late first before)
      · exact across first before second behind tie

/-! ## Samples and their origins -/

/-- A sample in one of the rings of a buffer. -/
structure Sample where
  /-- The number of the ring. -/
  ring : Nat
  /-- The number of the sample among the records of the ring. -/
  record : Nat
  payload : Bytes
deriving DecidableEq, Repr

namespace Sample

def time (sample : Sample) : UInt64 := leadingTimestamp sample.payload

/-- Whether one sample lies in front of another, in an earlier ring or in the same one. -/
def LiesBefore (first second : Sample) : Prop :=
  first.ring < second.ring ∨ first.ring = second.ring ∧ first.record < second.record

/-- Whether one sample comes before another: it is older, or of the same time and lies in front. -/
def Before (first second : Sample) : Prop :=
  first.time < second.time ∨ first.time = second.time ∧ first.LiesBefore second

instance (first second : Sample) : Decidable (first.Before second) :=
  inferInstanceAs (Decidable (_ ∨ _ ∧ (_ ∨ _ ∧ _)))

theorem not_before_of_before {first second : Sample} (before : first.Before second) :
    ¬ second.Before first := by
  simp only [Before, LiesBefore, UInt64.lt_iff_toNat_lt, ← UInt64.toNat_inj] at before ⊢
  omega

/-- There is one list of some samples in which each comes before all behind it. -/
theorem eq_of_before {list other : List Sample} (ordered : list.Pairwise Before)
    (otherOrdered : other.Pairwise Before) (same : ∀ sample, sample ∈ list ↔ sample ∈ other) :
    list = other := by
  have nodup {list : List Sample} (ordered : list.Pairwise Before) : list.Nodup :=
    ordered.imp fun before => by
      rintro rfl
      exact not_before_of_before before before
  refine List.Perm.eq_of_pairwise ?_ ordered otherOrdered
    ((List.perm_ext_iff_of_nodup (nodup ordered) (nodup otherOrdered)).mpr same)
  intro first second _ _ before after
  exact absurd after (not_before_of_before before)

end Sample

namespace Buffer

variable {buffer : Buffer}

/-- The buffer has this sample at its origin. -/
def Has (buffer : Buffer) (sample : Sample) : Prop :=
  ∃ ring, buffer.rings[sample.ring]? = some ring ∧
    ring.records[sample.record]? = some (.sample sample.payload)

/-- The samples of one ring. -/
def samplesOf (number : Nat) (ring : Ring) : List Sample :=
  ring.records.zipIdx.filterMap fun entry =>
    (payload? entry.1).map fun payload => ⟨number, entry.2, payload⟩

/-- The samples of all rings as they lie there. -/
def samples (buffer : Buffer) : List Sample :=
  buffer.rings.zipIdx.flatMap fun entry => samplesOf entry.2 entry.1

/-- The samples of all rings by time. -/
def merged (buffer : Buffer) : List Sample :=
  buffer.samples.mergeSort fun first second => notLater first.payload second.payload

theorem payload?_eq_some_iff {record : Record} {payload : Bytes} :
    payload? record = some payload ↔ record = .sample payload := by
  cases record <;> simp [payload?]

theorem mem_samplesOf {number : Nat} {ring : Ring} {sample : Sample} :
    sample ∈ samplesOf number ring ↔
      sample.ring = number ∧ ring.records[sample.record]? = some (.sample sample.payload) := by
  simp only [samplesOf, List.mem_filterMap, Prod.exists, List.mem_zipIdx_iff_getElem?,
    Option.map_eq_some_iff, payload?_eq_some_iff]
  constructor
  · rintro ⟨record, place, found, payload, rfl, rfl⟩
    exact ⟨rfl, found⟩
  · rintro ⟨rfl, found⟩
    exact ⟨_, _, found, _, rfl, rfl⟩

theorem mem_samples {sample : Sample} : sample ∈ buffer.samples ↔ buffer.Has sample := by
  simp only [samples, List.mem_flatMap, Prod.exists, List.mem_zipIdx_iff_getElem?, mem_samplesOf]
  constructor
  · rintro ⟨ring, number, found, rfl, lies⟩
    exact ⟨ring, found, lies⟩
  · rintro ⟨ring, found, lies⟩
    exact ⟨ring, _, found, rfl, lies⟩

theorem map_payload_samples (buffer : Buffer) :
    buffer.samples.map (·.payload) =
      (buffer.rings.flatMap Ring.records).filterMap payload? := by
  have ofRing (number : Nat) (ring : Ring) :
      (samplesOf number ring).map (·.payload) = ring.records.filterMap payload? := by
    conv_rhs => rw [← List.zipIdx_map_fst 0 ring.records, List.filterMap_map]
    rw [samplesOf, List.map_filterMap]
    refine congrArg (List.filterMap · _) (funext fun entry => ?_)
    rw [Option.map_map]
    exact Option.map_id'
  rw [List.filterMap_flatMap, samples, List.map_flatMap]
  conv_rhs => rw [← List.zipIdx_map_fst 0 buffer.rings, List.flatMap_map]
  exact congrArg (List.flatMap · _) (funext fun entry => ofRing entry.2 entry.1)

theorem pairwise_zipIdx {α : Type} (list : List α) :
    list.zipIdx.Pairwise fun first second => first.2 < second.2 := by
  rw [← List.pairwise_map (f := Prod.snd) (R := (· < ·)), List.zipIdx_map_snd]
  exact List.pairwise_lt_range' 1

theorem liesBefore_samples (buffer : Buffer) : buffer.samples.Pairwise Sample.LiesBefore := by
  refine List.pairwise_flatMap.mpr ⟨?_, ?_⟩
  · -- the records of one ring
    intro entry _
    refine List.pairwise_filterMap.mpr ((pairwise_zipIdx entry.1.records).imp ?_)
    intro first second before sample found other foundOther
    obtain ⟨payload, _, rfl⟩ := Option.map_eq_some_iff.mp found
    obtain ⟨payload, _, rfl⟩ := Option.map_eq_some_iff.mp foundOther
    exact .inr ⟨rfl, before⟩
  · -- two rings
    refine (pairwise_zipIdx buffer.rings).imp ?_
    intro first second before sample member other memberOther
    refine .inl ?_
    rwa [(mem_samplesOf.mp member).1, (mem_samplesOf.mp memberOther).1]

/-! ## The batch -/

theorem mem_merged {sample : Sample} : sample ∈ buffer.merged ↔ buffer.Has sample :=
  List.mem_mergeSort.trans mem_samples

theorem before_merged (buffer : Buffer) : buffer.merged.Pairwise Sample.Before := by
  let notAfter (first second : Sample) : Bool := notLater first.payload second.payload
  have trans (first second third : Sample) :
      notAfter first second → notAfter second third → notAfter first third := notLater_trans _ _ _
  have total (first second : Sample) : notAfter first second || notAfter second first :=
    notLater_total _ _
  have sorted := List.pairwise_mergeSort trans total buffer.samples
  have ties := pairwise_mergeSort_ties trans total (liesBefore_samples buffer)
  refine (sorted.and ties).imp ?_
  rintro first second ⟨notLate, tie⟩
  have notLate : first.time ≤ second.time := of_decide_eq_true notLate
  by_cases older : first.time < second.time
  · exact .inl older
  · have notOlder : second.time ≤ first.time := UInt64.not_lt.mp older
    exact .inr ⟨UInt64.le_antisymm notLate notOlder, tie (decide_eq_true notOlder)⟩

/-- The batch of a drain is the samples by time. -/
theorem drain_eq_merged (buffer : Buffer) : buffer.drain.1 = buffer.merged.map (·.payload) := by
  have forgotten : buffer.merged.map (·.payload) =
      (buffer.samples.map (·.payload)).mergeSort notLater :=
    List.map_mergeSort fun _ _ _ _ => rfl
  rw [forgotten, map_payload_samples]
  rfl

/-- What lies in a ring changes neither the samples of the other rings nor their order. -/
theorem merged_modifyArea (buffer : Buffer) (number : Nat) (change : Area → Area) :
    (buffer.modifyArea number change).merged.filter (·.ring ≠ number) =
      buffer.merged.filter (·.ring ≠ number) := by
  refine Sample.eq_of_before ((before_merged _).filter _) ((before_merged _).filter _) ?_
  intro sample
  simp only [List.mem_filter, mem_merged, decide_eq_true_eq]
  refine and_congr_left fun elsewhere => ?_
  have untouched : (buffer.modifyArea number change).rings[sample.ring]? =
      buffer.rings[sample.ring]? := List.getElem?_modify_ne _ _ (Ne.symm elsewhere)
  rw [Has, Has, untouched]

/-! ## The rings behind a drain -/

/-- How many samples some records say were lost. -/
def lostIn (records : List Record) : Nat := (records.map fun record => (lostCount record).toNat).sum

theorem toNat_foldl_lostCount (records : List Record) (lost : UInt64) :
    (records.foldl (fun total record => total + lostCount record) lost).toNat =
      (lost.toNat + lostIn records) % 2 ^ 64 := by
  induction records generalizing lost with
  | nil => exact (Nat.mod_eq_of_lt lost.toNat_lt).symm
  | cons record rest ih =>
    have more : lostIn (record :: rest) = (lostCount record).toNat + lostIn rest := List.sum_cons
    rw [List.foldl_cons, ih, UInt64.toNat_add, Nat.mod_add_mod, more, Nat.add_assoc]

theorem unread_afterRead (ring : Ring) : ring.afterRead.area.unread = [] := if_pos rfl

/-- A drain of rings that are read finds nothing, tells nothing and leaves them as they are. -/
theorem drain_afterRead (name : String) (rings : List Ring) (lost : UInt64) :
    drain ⟨name, rings.map Ring.afterRead, lost⟩ =
      ([], ⟨name, rings.map Ring.afterRead, lost⟩, []) := by
  have empty (ring : Ring) : ring.afterRead.records = [] := by
    rw [Ring.records, unread_afterRead, records, frames_nil, List.map_nil]
  have quiet (ring : Ring) : ringNotice name ring.afterRead = [] := by
    rw [ringNotice, empty, unread_afterRead, droppedNotice, afterFrames, frames_nil]
    rfl
  have found : (rings.map Ring.afterRead).flatMap Ring.records = [] := by
    simp [List.flatMap_map, empty]
  have log : (rings.map Ring.afterRead).flatMap (ringNotice name) = [] := by
    simp [List.flatMap_map, quiet]
  have read : (rings.map Ring.afterRead).map Ring.afterRead = rings.map Ring.afterRead := by
    rw [List.map_map]
    rfl
  simp only [drain, found, log, read, List.filterMap_nil, List.mergeSort_nil, List.foldl_nil]

/-- What a drain of any rings does:

- the batch is made of the samples in all rings, sorted by time;
- it is the samples with their origins in one order, in which samples of one time stand as they lie
  in the rings;
- the count of lost samples grows by the counts in all rings, while it fits into its word (past that
  `drain` wraps it around, and a build with overflow checks ends);
- in every ring the tail is set to the head, and nothing else is changed;
- a second drain returns nothing, tells nothing and leaves the buffer as it is;
- whatever else would lie in one of the rings, the samples of the others would be the same and in
  the same order. -/
theorem drain_merges (buffer : Buffer) :
    let batch := buffer.drain.1
    let drained := buffer.drain.2.1
    let found := buffer.rings.flatMap Ring.records
    let total := buffer.lost.toNat + lostIn found
    batch.Perm (found.filterMap payload?) ∧ SortedBatch batch ∧
      batch = buffer.merged.map (·.payload) ∧
      (∀ sample, sample ∈ buffer.merged ↔ buffer.Has sample) ∧
      buffer.merged.Pairwise Sample.Before ∧
      (total < 2 ^ 64 → drained.lost.toNat = total) ∧
      drained.rings = buffer.rings.map (fun ring =>
        { ring with area := { ring.area with tail := ring.area.head } }) ∧
      drained.drain = ([], drained, []) ∧
      ∀ (number : Nat) (change : Area → Area),
        (buffer.modifyArea number change).drain.1 =
            (buffer.modifyArea number change).merged.map (·.payload) ∧
          (buffer.modifyArea number change).merged.filter (·.ring ≠ number) =
            buffer.merged.filter (·.ring ≠ number) := by
  intro batch drained found total
  refine ⟨List.mergeSort_perm _ _, sortedBatch_drain buffer, drain_eq_merged buffer,
    fun _ => mem_merged, before_merged buffer, ?_, rfl, drain_afterRead _ _ _, ?_⟩
  · intro fits
    exact (toNat_foldl_lostCount found buffer.lost).trans (Nat.mod_eq_of_lt fits)
  · intro number change
    exact ⟨drain_eq_merged _, merged_modifyArea buffer number change⟩

/-! ## Two rings with samples of one time -/

/-- A frame with a sample of nine bytes: its time and a mark. -/
def markedFrame (time mark : UInt8) : Bytes :=
  [9, 0, 0, 0, 0, 0, 24, 0, 9, 0, 0, 0, time, 0, 0, 0, 0, 0, 0, 0, mark, 0, 0, 0]

/-- A frame with a count of lost samples. -/
def lossFrame (count : UInt8) : Bytes :=
  [2, 0, 0, 0, 0, 0, 24, 0, 7, 0, 0, 0, 0, 0, 0, 0, count, 0, 0, 0, 0, 0, 0, 0]

/-- A ring of 128 bytes whose counters wrap around within the first frame. -/
def filledRing (cpu : UInt32) (frames : List Bytes) : Ring where
  cpu := cpu
  event := ⟨⟨3⟩, true⟩
  length := 0
  area := (Area.fresh 128 (0 - 8)).push frames.flatten

/-- Ring 0 holds samples of the times 5 and 3, and ring 1 one of time 3. Both have lost samples. -/
def twoRings : Buffer where
  name := "tcp_event_v4"
  rings := [filledRing 0 [markedFrame 5 1, lossFrame 4, markedFrame 3 2],
    filledRing 1 [lossFrame 2, markedFrame 3 3]]
  lost := 10

/-- The samples of both rings by time. -/
def mergedTwoRings : List Sample := [
  ⟨0, 2, [3, 0, 0, 0, 0, 0, 0, 0, 2]⟩,
  ⟨1, 1, [3, 0, 0, 0, 0, 0, 0, 0, 3]⟩,
  ⟨0, 0, [5, 0, 0, 0, 0, 0, 0, 0, 1]⟩]

/-- The samples of time 3 stand in the order of the rings, and all losses are counted. -/
theorem drain_merges_twoRings :
    twoRings.lost.toNat + lostIn (twoRings.rings.flatMap Ring.records) < 2 ^ 64 ∧
      twoRings.drain.2.1.lost.toNat = 16 ∧
      twoRings.drain.1 = mergedTwoRings.map (·.payload) := by
  have total : twoRings.lost.toNat + lostIn (twoRings.rings.flatMap Ring.records) = 16 := by
    decide +kernel
  have fits : twoRings.lost.toNat + lostIn (twoRings.rings.flatMap Ring.records) < 2 ^ 64 := by
    rw [total]
    decide
  have ordered : mergedTwoRings.Pairwise Sample.Before := by decide +kernel
  have members : twoRings.samples.Perm mergedTwoRings := by decide +kernel
  obtain ⟨_, _, batch, has, before, lost, _⟩ := drain_merges twoRings
  have merged : twoRings.merged = mergedTwoRings := Sample.eq_of_before before ordered fun sample =>
    ((has sample).trans mem_samples.symm).trans members.mem_iff
  exact ⟨fits, (lost fits).trans total, merged ▸ batch⟩

end Buffer

end ProbeStream.Perf
