import ProbeStream.Proofs.Ring.Contents
import ProbeStream.Proofs.Stream.Poller

/-!
# A drain is not a cut

A drain does not see all rings at one moment. A sample that is written behind its back, into a
ring that it has read already, waits for the next drain; a later sample in a ring that it has not
read yet goes into this one. Then the decoder gets the older sample after the newer one and refuses
it, although the clock never went back (`ordering_of_crossing`).

This is the only way: the decoder refuses a sample for its time exactly if two samples crossed a
drain like that, and the next drain is complete (`ordering_mem_verdicts_iff`).

The proof keeps the account of all samples (`Accounts`): each is in the batch that its `batch`
number says, or was found by the drain that is going on, or lies in its ring. The numbers are
settled when a sample is written (`History`).
-/

namespace ProbeStream

open Perf

variable {family : Family}

namespace Poller

variable {poller : Poller family}

/-! ## What is known of the samples -/

/-- What is known of the samples that were written. -/
structure History (poller : Poller family) : Prop where
  samples : ∀ production ∈ poller.produced, IsFrame production.arrival.bytes ∧
    Record.ofFrame production.arrival.bytes = .sample production.payload ∧
    family.recordSize ≤ production.payload.length
  inside : ∀ production ∈ poller.produced, production.arrival.ring < poller.buffer.rings.length
  past : ∀ production ∈ poller.produced, production.drains ≤ poller.delivered.length ∧
    (production.drains = poller.delivered.length → production.cursor ≤ poller.cursor)
  ordered : poller.produced.Pairwise fun earlier later =>
    earlier.time ≤ later.time ∧ earlier.drains ≤ later.drains ∧
      (earlier.drains = later.drains → earlier.cursor ≤ later.cursor)

namespace History

theorem start (buffer : Buffer) : (start buffer : Poller family).History :=
  ⟨by simp [Poller.start], by simp [Poller.start], by simp [Poller.start], .nil⟩

theorem append (history : poller.History) {arrival : Buffer.Arrival} {payload : Bytes}
    (accepts : poller.Accepts arrival payload) : (poller.append arrival payload).History where
  samples := by
    intro production member
    rcases List.mem_append.mp member with old | new
    · exact history.samples production old
    · obtain rfl := List.mem_singleton.mp new
      exact ⟨accepts.whole, accepts.sample, accepts.full⟩
  inside := by
    intro production member
    have length : (poller.append arrival payload).buffer.rings.length =
        poller.buffer.rings.length := List.length_modify _ _ _
    rw [length]
    rcases List.mem_append.mp member with old | new
    · exact history.inside production old
    · obtain rfl := List.mem_singleton.mp new
      obtain ⟨ring, found, _⟩ := accepts.room
      exact (List.getElem?_eq_some_iff.mp found).1
  past := by
    intro production member
    rcases List.mem_append.mp member with old | new
    · exact history.past production old
    · obtain rfl := List.mem_singleton.mp new
      exact ⟨Nat.le_refl _, fun _ => Nat.le_refl _⟩
  ordered := by
    refine List.pairwise_append.mpr ⟨history.ordered, List.pairwise_singleton _ _, ?_⟩
    intro earlier old later new
    obtain rfl := List.mem_singleton.mp new
    exact ⟨accepts.notOlder earlier old, history.past earlier old⟩

theorem readRing (history : poller.History) (ring : Ring) : (poller.readRing ring).History where
  samples := history.samples
  inside := by
    intro production member
    rw [Poller.readRing, List.length_set]
    exact history.inside production member
  past := by
    intro production member
    obtain ⟨drains, cursor⟩ := history.past production member
    exact ⟨drains, fun same => Nat.le_succ_of_le (cursor same)⟩
  ordered := history.ordered

theorem handOver (history : poller.History) : poller.handOver.History where
  samples := history.samples
  inside := history.inside
  past := by
    intro production member
    obtain ⟨drains, _⟩ := history.past production member
    have length : poller.handOver.delivered.length = poller.delivered.length + 1 :=
      List.length_append
    rw [length]
    exact ⟨Nat.le_succ_of_le drains, fun same => by omega⟩
  ordered := history.ordered

/-- A sample is found by the drain that is going on, or it was written behind its back and is found
by the next one. -/
theorem batch_le (history : poller.History) {production : Production}
    (member : production ∈ poller.produced) : production.batch ≤ poller.delivered.length ∨
      production.batch = poller.delivered.length + 1 ∧ production.arrival.ring < poller.cursor := by
  obtain ⟨drains, cursor⟩ := history.past production member
  rw [Production.batch]
  split
  · next behind =>
    rcases Nat.lt_or_eq_of_le drains with before | now
    · exact .inl before
    · exact .inr ⟨congrArg (· + 1) now, Nat.lt_of_lt_of_le behind (cursor now)⟩
  · exact .inl drains

theorem drains_le_of_time_lt (history : poller.History) {older newer : Production}
    (memberOlder : older ∈ poller.produced) (memberNewer : newer ∈ poller.produced)
    (before : older.time < newer.time) : older.drains ≤ newer.drains ∧
      (older.drains = newer.drains → older.cursor ≤ newer.cursor) := by
  have ordered := List.pairwise_iff_getElem.mp history.ordered
  obtain ⟨i, insideOlder, rfl⟩ := List.getElem_of_mem memberOlder
  obtain ⟨j, insideNewer, rfl⟩ := List.getElem_of_mem memberNewer
  -- the clock does not go back, so the older sample was written first
  rcases Nat.lt_trichotomy i j with first | same | second
  · exact (ordered i j insideOlder insideNewer first).2
  · subst same
    exact absurd before (UInt64.lt_irrefl _)
  · exact absurd before (UInt64.not_lt.mpr (ordered j i insideNewer insideOlder second).1)

end History

/-! ## Where the samples are -/

/-- Whether a sample still lies in its ring. -/
def Waiting (poller : Poller family) (production : Production) : Prop :=
  poller.delivered.length < production.batch ∨
    production.batch = poller.delivered.length ∧ poller.cursor ≤ production.arrival.ring

instance (poller : Poller family) (production : Production) :
    Decidable (poller.Waiting production) :=
  inferInstanceAs (Decidable (_ ∨ _ ∧ _))

/-- The samples that still lie in a ring. -/
def waiting (poller : Poller family) (index : Nat) : List Production :=
  poller.produced.filter fun production =>
    production.arrival.ring = index ∧ poller.Waiting production

/-- The account of all samples that were written, and of what the decoder has got. -/
structure Accounts (poller : Poller family) : Prop where
  decoded : (Decoder.start .host).decodeAll family poller.delivered.flatten =
    (poller.verdicts, poller.decoder)
  sorted : ∀ batch ∈ poller.delivered, SortedBatch batch
  holds : ∀ (index : Nat) (ring : Ring), poller.buffer.rings[index]? = some ring →
    ring.area.Holds ((poller.waiting index).map (·.arrival.bytes)).flatten
  found : ∀ payload, payload ∈ poller.found.filterMap Buffer.payload? ↔
    ∃ production ∈ poller.produced, production.payload = payload ∧
      production.batch = poller.delivered.length ∧ production.arrival.ring < poller.cursor
  delivered : ∀ i batch, poller.delivered[i]? = some batch → ∀ payload, payload ∈ batch ↔
    ∃ production ∈ poller.produced, production.payload = payload ∧ production.batch = i

theorem exists_mem_append {list : List Production} {new : Production} {good : Production → Prop}
    (bad : ¬ good new) :
    (∃ production ∈ list ++ [new], good production) ↔ ∃ production ∈ list, good production := by
  constructor
  · rintro ⟨production, member, isGood⟩
    rcases List.mem_append.mp member with old | last
    · exact ⟨production, old, isGood⟩
    · rw [List.mem_singleton.mp last] at isGood
      exact absurd isGood bad
  · rintro ⟨production, member, isGood⟩
    exact ⟨production, List.mem_append_left _ member, isGood⟩

namespace Accounts

theorem start {buffer : Buffer}
    (empty : ∀ ring ∈ buffer.rings,
      IsRingSize ring.area.data.length ∧ ring.area.head = ring.area.tail) :
    (start buffer : Poller family).Accounts where
  decoded := rfl
  sorted := by simp [Poller.start]
  holds := by
    intro index ring found
    obtain ⟨ringSize, level⟩ := empty ring (List.mem_of_getElem? found)
    exact .nil ringSize level
  found := by simp [Poller.start]
  delivered := by simp [Poller.start]

/-- What a read of a ring finds. -/
theorem mem_payloads (accounts : poller.Accounts) (history : poller.History) {index : Nat}
    {ring : Ring} (found : poller.buffer.rings[index]? = some ring) (payload : Bytes) :
    payload ∈ ring.records.filterMap Buffer.payload? ↔
      ∃ production ∈ poller.waiting index, production.payload = payload := by
  have samples : ∀ production ∈ poller.waiting index, IsFrame production.arrival.bytes ∧
      Record.ofFrame production.arrival.bytes = .sample production.payload := by
    intro production member
    obtain ⟨whole, sample, _⟩ := history.samples production (List.mem_of_mem_filter member)
    exact ⟨whole, sample⟩
  have records : ring.records =
      (poller.waiting index).map fun production => .sample production.payload := by
    rw [Ring.records, (accounts.holds index ring found).unread_eq, records_flatten, List.map_map]
    · exact List.map_congr_left fun production member => (samples production member).2
    · intro frame member
      obtain ⟨production, inWaiting, rfl⟩ := List.mem_map.mp member
      exact (samples production inWaiting).1
  have payloads : ring.records.filterMap Buffer.payload? =
      (poller.waiting index).map (·.payload) := by
    rw [records, List.filterMap_map]
    exact congrFun List.filterMap_eq_map _
  rw [payloads, List.mem_map]

/-- A sample that is written lies in its ring, behind those that lie there already. -/
theorem append (accounts : poller.Accounts) {arrival : Buffer.Arrival} {payload : Bytes}
    (accepts : poller.Accepts arrival payload) : (poller.append arrival payload).Accounts where
  decoded := accounts.decoded
  sorted := accounts.sorted
  holds := by
    let new : Production := ⟨arrival, payload, poller.delivered.length, poller.cursor⟩
    have newWaits : poller.Waiting new := by
      simp only [Waiting, new, Production.batch]
      split <;> omega
    intro index ring found
    have waiting : (poller.append arrival payload).waiting index =
        poller.waiting index ++ if arrival.ring = index then [new] else [] := by
      refine (List.filter_append ..).trans (congrArg (poller.waiting index ++ ·) ?_)
      split
      · next here => exact List.filter_cons_of_pos (decide_eq_true ⟨here, newWaits⟩)
      · next elsewhere => exact List.filter_cons_of_neg (by simp [elsewhere])
    rw [waiting]
    rw [Poller.append, Buffer.arrive, Buffer.modifyArea, List.getElem?_modify] at found
    obtain ⟨before, foundBefore, rfl⟩ := Option.map_eq_some_iff.mp found
    have holds := accounts.holds index before foundBefore
    by_cases here : arrival.ring = index
    · obtain ⟨other, foundOther, room⟩ := accepts.room
      subst here
      obtain rfl := Option.some.inj (foundOther.symm.trans foundBefore)
      rw [holds.used] at room
      rw [if_pos rfl, if_pos rfl, List.map_append, List.flatten_append]
      simpa using holds.push room
    · rw [if_neg here, if_neg here, List.append_nil]
      exact holds
  found := by
    intro other
    refine (accounts.found other).trans (exists_mem_append ?_).symm
    rintro ⟨_, now, behind⟩
    simp only [Production.batch, if_pos behind] at now
    omega
  delivered := by
    intro i batch found other
    have inside : i < poller.delivered.length := (List.getElem?_eq_some_iff.mp found).1
    refine (accounts.delivered i batch found other).trans (exists_mem_append ?_).symm
    rintro ⟨_, past⟩
    simp only [Production.batch] at past
    split at past <;> omega

/-- What a read finds lay in the ring and lies there no more. In the other rings nothing changes. -/
theorem readRing (accounts : poller.Accounts) (history : poller.History) {ring : Ring}
    (next : poller.buffer.rings[poller.cursor]? = some ring) : (poller.readRing ring).Accounts where
  decoded := accounts.decoded
  sorted := accounts.sorted
  holds := by
    intro index other found
    rw [Poller.readRing, List.getElem?_set] at found
    by_cases here : poller.cursor = index
    · subst here
      -- what is written behind the back of the drain lies in rings before the cursor
      have waiting : (poller.readRing ring).waiting poller.cursor = [] := by
        refine List.filter_eq_nil_iff.mpr fun production member waits => ?_
        obtain ⟨inRing, late | ⟨_, ahead⟩⟩ := of_decide_eq_true waits
        · have late : poller.delivered.length < production.batch := late
          rcases history.batch_le member with settled | ⟨_, behind⟩ <;> omega
        · have ahead : poller.cursor + 1 ≤ production.arrival.ring := ahead
          omega
      rw [waiting]
      have inside := (List.getElem?_eq_some_iff.mp next).1
      rw [if_pos rfl, if_pos inside] at found
      obtain rfl := Option.some.inj found
      exact (accounts.holds poller.cursor ring next).advance
    · have waiting : (poller.readRing ring).waiting index = poller.waiting index := by
        refine List.filter_congr fun production _ => decide_eq_decide.mpr ?_
        simp only [Waiting, Poller.readRing]
        omega
      rw [if_neg here] at found
      rw [waiting]
      exact accounts.holds index other found
  found := by
    intro payload
    have split : (poller.readRing ring).found.filterMap Buffer.payload? =
        poller.found.filterMap Buffer.payload? ++ ring.records.filterMap Buffer.payload? :=
      List.filterMap_append
    rw [split, List.mem_append, accounts.found, accounts.mem_payloads history next]
    constructor
    · rintro (⟨production, member, same, now, behind⟩ | ⟨production, waits, same⟩)
      · exact ⟨production, member, same, now, Nat.lt_succ_of_lt behind⟩
      · obtain ⟨member, waits⟩ := List.mem_filter.mp waits
        obtain ⟨here, waits⟩ := of_decide_eq_true waits
        refine ⟨production, member, same, ?_, Nat.lt_succ_of_le (Nat.le_of_eq here)⟩
        rcases waits with late | ⟨now, _⟩
        · rcases history.batch_le member with settled | ⟨_, behind⟩ <;> omega
        · exact now
    · rintro ⟨production, member, same, now, behind⟩
      rcases Nat.lt_succ_iff_lt_or_eq.mp behind with before | here
      · exact .inl ⟨production, member, same, now, before⟩
      · refine .inr ⟨production, List.mem_filter.mpr ⟨member, ?_⟩, same⟩
        exact decide_eq_true ⟨here, .inr ⟨now, Nat.le_of_eq here.symm⟩⟩
  delivered := accounts.delivered

/-- When all rings are read the samples that were found are a batch. What was written behind the
back of the drain still lies in its ring. -/
theorem handOver (accounts : poller.Accounts) (history : poller.History)
    (complete : poller.cursor = poller.buffer.rings.length) : poller.handOver.Accounts where
  decoded := by
    show (Decoder.start .host).decodeAll family (poller.delivered ++ [poller.batch]).flatten = _
    rw [List.flatten_append, List.flatten_singleton, Decoder.decodeAll_append, accounts.decoded]
    rfl
  sorted := by
    intro batch member
    rcases List.mem_append.mp member with old | new
    · exact accounts.sorted batch old
    · rw [List.mem_singleton.mp new]
      exact sortedBatch_mergeSort _
  holds := by
    intro index ring found
    -- all rings are read, so only the samples of the next drain wait, before and after
    have waiting : poller.handOver.waiting index = poller.waiting index := by
      refine List.filter_congr fun production member => decide_eq_decide.mpr ?_
      have inside := history.inside production member
      have length : poller.handOver.delivered.length = poller.delivered.length + 1 :=
        List.length_append
      have cursor : poller.handOver.cursor = 0 := rfl
      rw [Waiting, Waiting, length, cursor]
      rcases history.batch_le member with settled | ⟨late, _⟩ <;> omega
    rw [waiting]
    exact accounts.holds index ring found
  found := by
    intro payload
    constructor
    · intro impossible
      cases impossible
    · rintro ⟨_, _, _, _, behind⟩
      exact absurd behind (Nat.not_lt_zero _)
  delivered := by
    intro i batch found payload
    have found : (poller.delivered ++ [poller.batch])[i]? = some batch := found
    rw [List.getElem?_append] at found
    split at found
    · exact accounts.delivered i batch found payload
    · next behind =>
      obtain ⟨within, rfl⟩ := List.getElem?_eq_some_iff.mp found
      obtain rfl : i = poller.delivered.length := by
        rw [List.length_singleton] at within
        omega
      rw [List.getElem_singleton]
      rw [Poller.batch, List.mem_mergeSort, accounts.found]
      constructor
      · rintro ⟨production, member, same, now, _⟩
        exact ⟨production, member, same, now⟩
      · rintro ⟨production, member, same, now⟩
        exact ⟨production, member, same, now, complete ▸ history.inside production member⟩

end Accounts

/-! ## Runs -/

theorem read_keeps (history : poller.History) (accounts : poller.Accounts) :
    poller.read.History ∧ poller.read.Accounts := by
  rw [read]
  split
  · exact ⟨history, accounts⟩
  · next ring next =>
    have historyAfter := history.readRing ring
    have accountsAfter := accounts.readRing history next
    simp only
    split
    · next complete =>
      have length : (poller.readRing ring).buffer.rings.length = poller.buffer.rings.length :=
        List.length_set
      exact ⟨historyAfter.handOver,
        accountsAfter.handOver historyAfter (complete.trans length.symm)⟩
    · exact ⟨historyAfter, accountsAfter⟩

theorem Reachable.keeps {buffer : Buffer}
    (empty : ∀ ring ∈ buffer.rings,
      IsRingSize ring.area.data.length ∧ ring.area.head = ring.area.tail)
    (reachable : Reachable buffer poller) : poller.History ∧ poller.Accounts := by
  induction reachable with
  | start => exact ⟨.start buffer, .start empty⟩
  | step _ step ih =>
    obtain ⟨history, accounts⟩ := ih
    cases step with
    | append accepts => exact ⟨history.append accepts, accounts.append accepts⟩
    | read => exact read_keeps history accounts

/-! ## Crossing a drain -/

/-- Two samples cross a drain: the older one was written into a ring that the drain had read, and
then the newer one into a ring that it had not read. -/
structure Crossing (older newer : Production) : Prop where
  older_time : older.time < newer.time
  one_drain : newer.drains = older.drains
  behind : older.arrival.ring < older.cursor
  ahead : newer.cursor ≤ newer.arrival.ring

theorem Crossing.batches {older newer : Production} (crossing : Crossing older newer) :
    older.batch = older.drains + 1 ∧ newer.batch = older.drains := by
  rw [Production.batch, Production.batch, if_pos crossing.behind,
    if_neg (Nat.not_lt.mpr crossing.ahead)]
  exact ⟨rfl, crossing.one_drain⟩

/-- A sample that is delivered before an older one crossed a drain with it. -/
theorem History.crossing (history : poller.History) {older newer : Production}
    (memberOlder : older ∈ poller.produced) (memberNewer : newer ∈ poller.produced)
    (before : older.time < newer.time) (swapped : newer.batch < older.batch) :
    Crossing older newer := by
  obtain ⟨drains, cursor⟩ := history.drains_le_of_time_lt memberOlder memberNewer before
  -- the older one is delivered later, so its drain had passed its ring when it was written
  simp only [Production.batch] at swapped
  by_cases behind : older.arrival.ring < older.cursor
  · rw [if_pos behind] at swapped
    by_cases ahead : newer.arrival.ring < newer.cursor
    · rw [if_pos ahead] at swapped
      omega
    · rw [if_neg ahead] at swapped
      exact ⟨before, by omega, behind, Nat.not_lt.mp ahead⟩
  · rw [if_neg behind] at swapped
    split at swapped <;> omega

/-- The events of a batch are those of the samples with its number. -/
theorem Accounts.mem_events (accounts : poller.Accounts) (history : poller.History) {i : Nat}
    {batch : List Bytes} (found : poller.delivered[i]? = some batch) (time : UInt64) :
    (∃ event ∈ eventsIn family .host batch, event.timestamp = time) ↔
      ∃ production ∈ poller.produced, production.time = time ∧ production.batch = i := by
  constructor
  · rintro ⟨event, member, rfl⟩
    obtain ⟨raw, present, enough, rfl⟩ := mem_eventsIn.mp member
    obtain ⟨production, written, same, number⟩ :=
      (accounts.delivered i batch found raw).mp present
    refine ⟨production, written, ?_, number⟩
    rw [Production.time, same, leadingTimestamp_of_long enough]
  · rintro ⟨production, written, rfl, number⟩
    obtain ⟨_, _, enough⟩ := history.samples production written
    refine ⟨_, mem_eventsIn.mpr ⟨production.payload, ?_, enough, rfl⟩, ?_⟩
    · exact (accounts.delivered i batch found _).mpr ⟨production, written, rfl, number⟩
    · rw [Production.time, leadingTimestamp_of_long enough]

/-- Whatever the order of the writes and the reads, the decoder refuses a sample for its time
exactly if two samples crossed a drain and the next drain is complete. -/
theorem ordering_mem_verdicts_iff {buffer : Buffer}
    (empty : ∀ ring ∈ buffer.rings,
      IsRingSize ring.area.data.length ∧ ring.area.head = ring.area.tail)
    (reachable : Reachable buffer poller) :
    (∃ time last, .error (.ordering time last) ∈ poller.verdicts) ↔
      ∃ older ∈ poller.produced, ∃ newer ∈ poller.produced, Crossing older newer ∧
        older.drains + 1 < poller.delivered.length := by
  obtain ⟨history, accounts⟩ := reachable.keeps empty
  have verdicts : ((Decoder.start .host).decodeAll family poller.delivered.flatten).1 =
      poller.verdicts := congrArg Prod.fst accounts.decoded
  rw [← verdicts, Decoder.ordering_mem_decodeAll_iff]
  show ¬ InOrder 0 (eventsIn family .host poller.delivered.flatten) ↔ _
  rw [inOrder_flatten_iff accounts.sorted, not_forall_not]
  constructor
  · -- the two events come from two samples, and their batches are swapped
    rintro ⟨j, i, before, earlier, later, foundEarlier, foundLater, a, inEarlier, b, inLater,
      older⟩
    obtain ⟨newer, writtenNewer, timeNewer, numberNewer⟩ :=
      (accounts.mem_events history foundEarlier _).mp ⟨a, inEarlier, rfl⟩
    obtain ⟨old, writtenOlder, timeOlder, numberOlder⟩ :=
      (accounts.mem_events history foundLater _).mp ⟨b, inLater, rfl⟩
    rw [← timeNewer, ← timeOlder] at older
    have crossing := history.crossing writtenOlder writtenNewer older (by omega)
    refine ⟨old, writtenOlder, newer, writtenNewer, crossing, ?_⟩
    rw [← crossing.batches.1, numberOlder]
    exact (List.getElem?_eq_some_iff.mp foundLater).1
  · -- both batches are complete, so both samples are in them
    rintro ⟨older, writtenOlder, newer, writtenNewer, crossing, complete⟩
    obtain ⟨numberOlder, numberNewer⟩ := crossing.batches
    have foundEarlier := List.getElem?_eq_getElem (Nat.lt_of_succ_lt complete)
    have foundLater := List.getElem?_eq_getElem complete
    obtain ⟨a, inEarlier, timeNewer⟩ := (accounts.mem_events history foundEarlier newer.time).mpr
      ⟨newer, writtenNewer, rfl, numberNewer⟩
    obtain ⟨b, inLater, timeOlder⟩ := (accounts.mem_events history foundLater older.time).mpr
      ⟨older, writtenOlder, rfl, numberOlder⟩
    refine ⟨older.drains + 1, older.drains, Nat.lt_succ_self _, _, _, foundEarlier, foundLater,
      a, inEarlier, b, inLater, ?_⟩
    rw [timeOlder, timeNewer]
    exact crossing.older_time

/-! ## Two samples that cross a drain -/

/-- A ring of 128 bytes to which nothing has happened. -/
def quietRing (cpu : UInt32) : Ring where
  cpu := cpu
  event := ⟨⟨3⟩, true⟩
  length := 0
  area := .fresh 128 0

/-- A buffer with two such rings. -/
def quietBuffer : Buffer := ⟨"tcp_event_v4", [quietRing 0, quietRing 1], 0⟩

/-- The first drain reads ring 0, then samples are written into ring 0 at time 1 and into ring 1 at
time 2, and then the drain reads ring 1. The second drain reads both rings. -/
def crossed : Poller .v4 :=
  ((((((start quietBuffer).read).append ⟨0, timedFrame 1⟩ (timedRecord 1)).append
    ⟨1, timedFrame 2⟩ (timedRecord 2)).read).read).read

theorem quietBuffer_empty : ∀ ring ∈ quietBuffer.rings,
    IsRingSize ring.area.data.length ∧ ring.area.head = ring.area.tail := by
  intro ring member
  simp only [quietBuffer, List.mem_cons, List.not_mem_nil, or_false] at member
  rcases member with rfl | rfl <;> exact ⟨⟨7, by decide, List.length_replicate⟩, rfl⟩

theorem reachable_crossed : Reachable quietBuffer crossed := by
  let begun : Poller .v4 := (start quietBuffer).read
  let written : Poller .v4 := begun.append ⟨0, timedFrame 1⟩ (timedRecord 1)
  have first : begun.Accepts ⟨0, timedFrame 1⟩ (timedRecord 1) :=
    ⟨by decide +kernel, by decide +kernel, by decide +kernel, by decide +kernel,
      quietRing 0 |>.afterRead, by decide +kernel, by decide +kernel⟩
  have second : written.Accepts ⟨1, timedFrame 2⟩ (timedRecord 2) :=
    ⟨by decide +kernel, by decide +kernel, by decide +kernel, by decide +kernel,
      quietRing 1, by decide +kernel, by decide +kernel⟩
  exact (((((Reachable.start.step .read).step (.append first)).step (.append second)).step
    .read).step .read).step .read

/-- The clock did not go back, but the decoder refuses the sample of time 1. -/
theorem ordering_of_crossing :
    (∀ ring ∈ quietBuffer.rings,
      IsRingSize ring.area.data.length ∧ ring.area.head = ring.area.tail) ∧
      Reachable quietBuffer crossed ∧ .error (.ordering 1 2) ∈ crossed.verdicts :=
  ⟨quietBuffer_empty, reachable_crossed, by decide +kernel⟩

/-- In that run two samples crossed the first drain. -/
theorem ordering_mem_verdicts_iff_crossed :
    (∀ ring ∈ quietBuffer.rings,
      IsRingSize ring.area.data.length ∧ ring.area.head = ring.area.tail) ∧
      Reachable quietBuffer crossed ∧
      ∃ older ∈ crossed.produced, ∃ newer ∈ crossed.produced, Crossing older newer ∧
        older.drains + 1 < crossed.delivered.length :=
  ⟨quietBuffer_empty, reachable_crossed,
    (ordering_mem_verdicts_iff quietBuffer_empty reachable_crossed).mp ⟨1, 2, by decide +kernel⟩⟩

end Poller

end ProbeStream
