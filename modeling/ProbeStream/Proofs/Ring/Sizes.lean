import ProbeStream.Proofs.Ring.Copies
import ProbeStream.Proofs.Ring.Opening

/-!
# Sizes of rings

A ring is mapped as one page of counters and so many pages of data, and the reader relies on the
size of the data being a power of two: it masks counters with the size less one and cuts the data at
the places that come out. Pages are counted and measured in powers of two, so the size of the data
is one as well (`Ring.IsSound`).

What nothing checks in advance is whether the length of a mapping fits in a word. Every ring that is
opened is sound, but a number of pages that is accepted may be too large: then the opening ends for
overflow at the first event that is opened (`create_sizes`, `create_overflow`).
-/

namespace ProbeStream

namespace System

variable {σ : Type}

/-- What is mapped, if anything, is a page of counters and, up to the length, data behind it. -/
def IsWhole (system : System σ) (length : UInt64) (answer : Except Errno Perf.Area) : Prop :=
  ∀ area, answer = .ok area → area.data.length = (length - system.pageSize).toNat

/-- What is mapped is as long as was asked. -/
def MapsWhole (system : System σ) : Prop :=
  ∀ length event state, system.IsWhole length (system.mapEvent length event state).1

end System

/-- A system that follows a script maps what was asked. -/
theorem ScriptedSystem.mapsWhole : ScriptedSystem.system.MapsWhole := by
  intro length event state area mapped
  have filled (plan : RingPlan) (size : Nat) : (plan.area size).data.length = size := by
    have written : ((Perf.Area.fresh size plan.start).push plan.data).data.length = size := by
      rw [Perf.Area.length_data_push]
      exact List.length_replicate
    unfold RingPlan.area
    cases plan.head <;> exact written
  change (mapEvent length state).1 = .ok area at mapped
  unfold mapEvent at mapped
  rcases decided : decide .mapEvent state with ⟨code | _, next⟩
  · rw [decided] at mapped
    cases mapped
  · rw [decided] at mapped
    cases mapped
    exact filled _ _

namespace Perf

variable {σ : Type}

/-! ## Lengths of mappings -/

/-- Behind the page of counters there is room for the data. -/
theorem toNat_sub_pageSize {pageSize pages length : UInt64}
    (counts : length.toNat = (pages.toNat + 1) * pageSize.toNat) :
    (length - pageSize).toNat = pages.toNat * pageSize.toNat := by
  rw [Nat.succ_mul] at counts
  have more : pageSize ≤ length := UInt64.le_iff_toNat_le.mpr (counts ▸ Nat.le_add_left ..)
  rw [UInt64.toNat_sub_of_le _ _ more, counts, Nat.add_sub_cancel]

/-- A product of powers of two is a power of two. -/
theorem IsRingSize.mul {count size : Nat} (countSize : IsRingSize count)
    (ringSize : IsRingSize size) (small : count * size < 2 ^ 64) : IsRingSize (count * size) := by
  obtain ⟨exponent, -, rfl⟩ := countSize
  obtain ⟨other, -, rfl⟩ := ringSize
  rw [← Nat.pow_add] at small ⊢
  exact ⟨exponent + other, (Nat.pow_lt_pow_iff_right (by decide)).mp small, rfl⟩

/-! ## Rings that are mapped -/

/-- The data of the ring fill its mapping behind the page of counters. -/
def Ring.IsMapped (system : System σ) (ring : Ring) : Prop :=
  ring.area.data.length = (ring.length - system.pageSize).toNat

theorem Ring.makes_create_mapped {system : System σ} (whole : system.MapsWhole) (cpu : UInt32)
    {pages length : UInt64} (counted : mappedLength? system.pageSize pages = some length) :
    Machine.Makes (Ring.create system cpu pages) fun result _ =>
      ∀ ring, result = .ok ring → ring.IsMapped system := by
  simp only [Ring.create, counted]
  refine .perform fun answer => ?_
  rcases answer with code | event
  · refine .pure ?_
    rintro _ ⟨⟩
  refine .answered (whole length event) fun answer known => ?_
  rcases answer with code | area
  · refine (OpenEvent.makes_close_of_new system event).bind fun _ _ _ => .pure ?_
    rintro _ ⟨⟩
  · refine .pure ?_
    rintro _ ⟨⟩
    exact known area rfl

/-- The rings of the loop stay as they were mapped. -/
theorem Buffer.makes_openRings_mapped {system : System σ} (whole : system.MapsWhole)
    (name : String) (map : Handle) {pages length : UInt64}
    (counted : mappedLength? system.pageSize pages = some length) (cpus : List UInt32)
    {opened : List Ring} (enabled : ∀ ring ∈ opened, ring.event.enabled = true)
    (mapped : ∀ ring ∈ opened, ring.IsMapped system) :
    Machine.Makes (openRings system name map pages cpus opened) fun answer _ =>
      ∀ rings, answer.1 = .ok rings → ∀ ring ∈ rings, ring.IsMapped system := by
  induction cpus generalizing opened with
  | nil =>
    refine .pure ?_
    rintro _ ⟨⟩
    exact mapped
  | cons cpu rest ih =>
    refine ((Ring.makes_create system map cpu counted).both
      (Ring.makes_create_mapped whole cpu counted)).bind ?_
    rintro (fault | ring) before ⟨created, fits⟩
    · by_cases same : fault = .failed (.system .noDevice)
      · simp only [if_pos same]
        exact (ih enabled mapped).bind fun _ _ holds => .pure holds
      · simp only [if_neg same]
        refine (makes_closeRings system enabled).bind fun _ _ _ => .pure ?_
        rintro _ ⟨⟩
    · obtain ⟨event, area, rfl, rfl⟩ := created
      have fits : area.data.length = (length - system.pageSize).toNat := fits _ rfl
      refine (Ring.makes_publish system map cpu event _ area).bind ?_
      rintro (code | ring) _ ⟨outcome, visited, ended⟩
      · refine (makes_closeRings system enabled).bind fun _ _ _ => .pure ?_
        rintro _ ⟨⟩
      · obtain ⟨rfl, rfl⟩ := ended
        refine ih (List.forall_mem_append.mpr ⟨enabled, ?_⟩)
          (List.forall_mem_append.mpr ⟨mapped, ?_⟩)
        · exact List.forall_mem_singleton.mpr rfl
        · exact List.forall_mem_singleton.mpr fits

/-! ## Sizes of all mappings -/

/-- What a reader relies on when a ring has so many pages of data. -/
structure Ring.IsSound (pageSize pages : Nat) (ring : Ring) : Prop where
  /-- The page of counters and the data are mapped, and no more. -/
  length : ring.length.toNat = (pages + 1) * pageSize
  data : ring.area.data.length = pages * pageSize
  ringSize : IsRingSize ring.area.data.length
  /-- Wherever the counters stand, a copy stays inside the data, which keep their size. -/
  inside : ∀ data : Bytes, data.length = ring.area.data.length →
    ∀ tail head, CopiesInside data tail head

/-- A ring of the length that is meant is sound. -/
theorem Ring.isSound_of_isMapped {system : System σ} {pages : UInt64} {ring : Ring}
    (countSize : IsRingSize pages.toNat) (pageSize : IsRingSize system.pageSize.toNat)
    (mapped : ring.IsMapped system)
    (counts : ring.length.toNat = (pages.toNat + 1) * system.pageSize.toNat) :
    ring.IsSound system.pageSize.toNat pages.toNat := by
  have data : ring.area.data.length = pages.toNat * system.pageSize.toNat :=
    mapped.trans (toNat_sub_pageSize counts)
  have small : pages.toNat * system.pageSize.toNat < 2 ^ 64 := by
    rw [← toNat_sub_pageSize counts]
    exact UInt64.toNat_lt _
  have ringSize : IsRingSize ring.area.data.length := data ▸ countSize.mul pageSize small
  exact ⟨counts, data, ringSize, fun other long => IsRingSize.copiesInside (long ▸ ringSize)⟩

/-- A visit maps rings of its length only. -/
theorem Visit.length_of_mem_calls {map : Handle} {length size : UInt64} {visit : Visit}
    {event : Handle} {answer : Except Errno Unit}
    (made : .mapEvent size event answer ∈ visit.calls map length) : size = length := by
  obtain ⟨cpu, outcome⟩ := visit
  cases outcome <;> simp [calls, opening] at made
  all_goals exact made.1

/-- Giving rings up maps nothing. -/
theorem Closes.mapEvent_notMem {rings : List Ring} {closing : List SystemCall}
    (closes : Closes rings closing) (size : UInt64) (event : Handle)
    (answer : Except Errno Unit) : .mapEvent size event answer ∉ closing := by
  induction closes with
  | nil => simp
  | cons ring _ later ih => simpa using ih

namespace Course

variable {length : UInt64} {opened : List Ring} {cpus : List UInt32} {visits : List Visit}
  {closing : List SystemCall} {result : Except OpenFault (List Ring)}

/-- All mappings of a course are of its length. -/
theorem length_of_mem (map : Handle) (course : Course length opened cpus visits closing result)
    {size : UInt64} {event : Handle} {answer : Except Errno Unit}
    (made : .mapEvent size event answer ∈ visits.flatMap (Visit.calls map length) ++ closing) :
    size = length := by
  rcases List.mem_append.mp made with visiting | giving
  · obtain ⟨visit, -, made⟩ := List.mem_flatMap.mp visiting
    exact Visit.length_of_mem_calls made
  · rcases course.shape with ⟨_, _, _, rfl, _⟩ | ⟨_, _, _, _, _, _, _, _, _, closes⟩
    · cases giving
    · exact absurd giving (closes.mapEvent_notMem size event answer)

/-- All rings of a course are of its length. -/
theorem length_ring {rings : List Ring}
    (course : Course length [] cpus visits closing (.ok rings)) :
    ∀ ring ∈ rings, ring.length = length := by
  rcases course.shape with ⟨_, same, _, _, rfl, _⟩ | ⟨_, _, _, _, impossible, _⟩
  · cases same
    intro ring present
    obtain ⟨visit, -, published⟩ := List.mem_filterMap.mp present
    obtain ⟨_, _, _, _, rfl⟩ := Visit.ring?_eq_some_iff.mp published
    rfl
  · cases impossible

end Course

/-- When the length of a mapping cannot be counted, nothing is mapped, and an event is opened only
to end for overflow. -/
theorem Uncounted.overflow_iff {cpus : List UInt32} {result : Except OpenFault (List Ring)}
    {calls : List SystemCall} (uncounted : Uncounted cpus result calls) :
    result = .error .overflow ↔
      ∃ attributes cpu event, .openEvent attributes cpu (.ok event) ∈ calls := by
  cases uncounted with
  | absent => simp [Visit.absence, Visit.opening]
  | unopened => simp [Visit.absence, Visit.opening]
  | overflow before cpu later event => simp [Visit.absence, Visit.opening]

theorem Uncounted.mapEvent_notMem {cpus : List UInt32} {result : Except OpenFault (List Ring)}
    {calls : List SystemCall} (uncounted : Uncounted cpus result calls) (size : UInt64)
    (event : Handle) (answer : Except Errno Unit) : .mapEvent size event answer ∉ calls := by
  cases uncounted <;> simp [Visit.absence, Visit.opening]

theorem Uncounted.eq_nil {cpus : List UInt32} {rings : List Ring} {calls : List SystemCall}
    (uncounted : Uncounted cpus (.ok rings) calls) : rings = [] := by
  cases uncounted
  rfl

/-- What is known of the sizes of the mappings when a buffer was opened, or was not. -/
structure Sized (pageSize pages : Nat) (answer : Except OpenFault Buffer)
    (calls : List SystemCall) : Prop where
  /-- Nothing is done for a number of pages that is not a power of two. -/
  accepted : IsRingSize pages ∨
    calls = [] ∧ ∃ message, answer = .error (.failed (.invalidInput message))
  /-- A page of counters and the data are mapped, and their length fits in a word. -/
  mapped : ∀ size event result, .mapEvent size event result ∈ calls →
    size.toNat = (pages + 1) * pageSize
  /-- Every ring is as its reader needs it. -/
  sound : ∀ buffer, answer = .ok buffer → ∀ ring ∈ buffer.rings, ring.IsSound pageSize pages
  /-- The opening ends for overflow exactly if the length does not fit in a word and there is an
  event to be mapped. -/
  overflow : answer = .error .overflow ↔ 2 ^ 64 ≤ (pages + 1) * pageSize ∧
    ∃ attributes cpu event, .openEvent attributes cpu (.ok event) ∈ calls

namespace Buffer

variable {system : System σ} {pages : UInt64}

theorem sized_of_counted (whole : system.MapsWhole) (pageSize : IsRingSize system.pageSize.toNat)
    (name : String) (map : Handle) (cpus : List UInt32) (countSize : IsRingSize pages.toNat)
    {length : UInt64} (counted : mappedLength? system.pageSize pages = some length) :
    Machine.Makes (create system name map cpus pages) fun answer calls =>
      Sized system.pageSize.toNat pages.toNat answer.1 calls := by
  have counts := mappedLength?_eq_some_iff.mp counted
  have small : ¬ 2 ^ 64 ≤ (pages.toNat + 1) * system.pageSize.toNat := by
    rw [← counts]
    exact Nat.not_le.mpr length.toNat_lt
  simp only [create, (isPowerOfTwo_iff pages).mpr countSize]
  refine ((makes_openRings system name map counted cpus (by simp)).both
    (makes_openRings_mapped whole name map counted cpus (by simp) (by simp))).bind ?_
  rintro ⟨result, log⟩ before ⟨⟨visits, closing, rfl, course⟩, mapped⟩
  have lengths (size : UInt64) (event : Handle) (answer : Except Errno Unit)
      (made : .mapEvent size event answer ∈
        visits.flatMap (Visit.calls map length) ++ closing ++ []) :
      size.toNat = (pages.toNat + 1) * system.pageSize.toNat := by
    rw [List.append_nil] at made
    rw [course.length_of_mem map made, counts]
  cases result with
  | error fault =>
    refine .pure ⟨.inl countSize, lengths, ?_, iff_of_false ?_ fun large => small large.1⟩
    · rintro _ ⟨⟩
    · rintro ⟨⟩
      rcases course.shape with ⟨_, impossible, _⟩ | ⟨_, _, _, _, impossible, _⟩ <;> cases impossible
  | ok rings =>
    refine .pure ⟨.inl countSize, lengths, ?_, iff_of_false ?_ fun large => small large.1⟩
    · rintro _ ⟨⟩ ring present
      refine Ring.isSound_of_isMapped countSize pageSize (mapped rings rfl ring present) ?_
      rw [course.length_ring ring present, counts]
    · rintro ⟨⟩

theorem sized_of_uncounted (name : String) (map : Handle) (cpus : List UInt32)
    (countSize : IsRingSize pages.toNat)
    (uncounted : mappedLength? system.pageSize pages = none) :
    Machine.Makes (create system name map cpus pages) fun answer calls =>
      Sized system.pageSize.toNat pages.toNat answer.1 calls := by
  have large := mappedLength?_eq_none_iff.mp uncounted
  refine (makes_create_uncounted system name map cpus countSize uncounted).weaken ?_
  rintro ⟨_, log⟩ calls ⟨result, rfl, ended⟩
  refine ⟨.inl countSize, fun size event answer made => ?_, ?_, ?_⟩
  · exact absurd made (ended.mapEvent_notMem size event answer)
  · intro buffer opened ring present
    cases result with
    | error fault => cases opened
    | ok rings =>
      cases opened
      rw [ended.eq_nil] at present
      cases present
  · rw [← ended.overflow_iff, and_iff_right large]
    cases result with
    | error fault => simp [Except.map]
    | ok rings => exact iff_of_false nofun nofun

/-- The sizes of all mappings, for every system, every number of pages and every size of a page
that is a power of two. -/
theorem create_sizes (whole : system.MapsWhole) (pageSize : IsRingSize system.pageSize.toNat)
    (name : String) (map : Handle) (cpus : List UInt32) (pages : UInt64) :
    Machine.Makes (create system name map cpus pages) fun answer calls =>
      Sized system.pageSize.toNat pages.toNat answer.1 calls := by
  by_cases countSize : IsRingSize pages.toNat
  · cases computed : mappedLength? system.pageSize pages with
    | some length => exact sized_of_counted whole pageSize name map cpus countSize computed
    | none => exact sized_of_uncounted name map cpus countSize computed
  · refine (makes_create_refused system name map cpus countSize).weaken ?_
    rintro ⟨_, log⟩ _ ⟨rfl, rfl⟩
    exact ⟨.inr ⟨rfl, _, rfl⟩, nofun, nofun, iff_of_false nofun nofun⟩

/-- Every call succeeds, and the rings are empty. -/
def obliging : ScriptedSystem := ⟨⟨100, fun _ => []⟩, [], []⟩

/-- The rings of two processors, with two pages of data each, are sound. -/
theorem create_sizes_twoPages :
    ScriptedSystem.system.MapsWhole ∧ IsRingSize ScriptedSystem.system.pageSize.toNat ∧
      ∃ buffer,
        (create ScriptedSystem.system "tcp" ⟨50⟩ [0, 1] 2 (.start obliging)).1.1 = .ok buffer ∧
          buffer.rings.map Ring.cpu = [0, 1] ∧ ∀ ring ∈ buffer.rings, ring.IsSound 4096 2 := by
  have pageSize : IsRingSize ScriptedSystem.system.pageSize.toNat := ⟨12, by decide, by decide⟩
  refine ⟨ScriptedSystem.mapsWhole, pageSize, ?_⟩
  obtain ⟨calls, -, sized⟩ := create_sizes ScriptedSystem.mapsWhole pageSize "tcp" ⟨50⟩ [0, 1] 2
    (.start obliging)
  have cpus : ((create ScriptedSystem.system "tcp" ⟨50⟩ [0, 1] 2 (.start obliging)).1.1.map
      fun buffer => buffer.rings.map Ring.cpu).toOption = some [0, 1] := by decide +kernel
  cases result : (create ScriptedSystem.system "tcp" ⟨50⟩ [0, 1] 2 (.start obliging)).1.1 with
  | error error =>
    rw [result] at cpus
    cases cpus
  | ok buffer =>
    rw [result] at cpus sized
    exact ⟨buffer, rfl, Option.some.inj cpus, sized.sound buffer rfl⟩

/-- The number of pages is a power of two, and the length of a mapping does not fit in a word: the
event is opened and given up, and the opening ends for overflow. -/
theorem create_overflow :
    let opening := create ScriptedSystem.system "tcp" ⟨50⟩ [0] 4503599627370496 (.start obliging)
    isPowerOfTwo 4503599627370496 ∧ 2 ^ 64 ≤ (4503599627370496 + 1) * 4096 ∧
      ScriptedSystem.system.pageSize = 4096 ∧ opening.1.1 = .error .overflow ∧
      opening.2.calls = [Visit.opening 0 (.ok ⟨100⟩), .closeHandle ⟨100⟩] :=
  ⟨by decide, by decide, rfl, by decide +kernel, rfl⟩

end Buffer

end Perf

end ProbeStream
