import Mathlib.Data.List.Nodup
import ProbeStream.Perf.Buffer
import ProbeStream.Proofs.Ring.Contents
import ProbeStream.Proofs.System.Calls
import ProbeStream.System.Scripted

/-!
# Opening a buffer

A buffer is opened by one visit to each processor, in the order of the list. A visit opens the event
of the processor, maps it, stores it under the number of the processor and enables it, up to the
first call that fails. `Outcome` lists where a visit can end, and `Visit.calls` the calls that it
has made by then, with those that take back what it has opened. `Course` is how the visits follow
each other: the loop goes on after a ring that is published and after a processor that is not there,
and every other outcome is the last, after which the rings of the earlier visits are given up.

The failure of the last visit is passed on with its number, with one exception: if enabling has
failed with a number that has no text, the opening fails with the number of success. The other three
calls keep such a number.

All this is so if the length of a mapping can be counted in a word. If it cannot, nothing is mapped,
and the first processor whose event is opened ends the opening (`Uncounted`).
-/

namespace ProbeStream

namespace SystemCall

/-- The processor whose event a call opens, or under whose number it stores. -/
def cpu? : SystemCall → Option UInt32
  | .openEvent _ cpu _ => some cpu
  | .updateMap _ key _ _ => some key
  | _ => none

/-- The number with which a call has failed. -/
def failure? : SystemCall → Option Errno
  | .createMap _ (.error code) | .updateMap _ _ _ (.error code) | .loadProgram _ (.error code)
  | .openEvent _ _ (.error code) | .mapEvent _ _ (.error code) | .enableEvent _ (.error code)
  | .disableEvent _ (.error code) | .setProgram _ _ (.error code) | .getMemoryLimit (.error code)
  | .setMemoryLimit _ _ (.error code) => some code
  | _ => none

end SystemCall

namespace Errno

/-- The number has a text. -/
def IsKnown (code : Errno) : Prop := (texts.lookup code.number).isSome

theorem orSuccess_eq_self_iff (code : Errno) : code.orSuccess = code ↔ code.IsKnown := by
  unfold orSuccess IsKnown
  split
  case isTrue known => exact iff_of_true rfl known
  case isFalse unknown =>
    refine ⟨fun same => absurd ?_ unknown, fun known => absurd known unknown⟩
    rw [← same]
    rfl

end Errno

namespace Perf

variable {σ : Type}

/-! ## Visits -/

/-- Where the visit to a processor ends. -/
inductive Outcome where
  /-- No event can be opened. -/
  | unopened (code : Errno)
  /-- The event cannot be mapped. -/
  | unmapped (event : Handle) (code : Errno)
  /-- The event is mapped and cannot be stored. -/
  | unstored (event : Handle) (code : Errno)
  /-- The event is stored and cannot be enabled. -/
  | unenabled (event : Handle) (code : Errno)
  /-- The event is stored and enabled. -/
  | published (event : Handle) (area : Area)

namespace Outcome

/-- The processor is not there. -/
def isAbsent : Outcome → Bool
  | .unopened code => code = .noDevice
  | .unmapped _ code => code = .noDevice
  | _ => false

/-- The number with which a call of the visit has failed. -/
def failure? : Outcome → Option Errno
  | .unopened code => some code
  | .unmapped _ code => some code
  | .unstored _ code => some code
  | .unenabled _ code => some code
  | .published _ _ => none

/-- The number under which a failure of the visit is passed on. -/
def report : Outcome → Errno → Errno
  | .unenabled _ _, code => code.orSuccess
  | _, code => code

/-- The number with which the visit ends the opening. -/
def passedOn? (outcome : Outcome) : Option Errno :=
  if outcome.isAbsent then none else outcome.failure?.map outcome.report

theorem passedOn?_of_uncreated {outcome : Outcome} {code : Errno}
    (ends : outcome = .unopened code ∨ ∃ event, outcome = .unmapped event code) :
    outcome.passedOn? = if code = .noDevice then none else some code := by
  rcases ends with rfl | ⟨event, rfl⟩ <;> simp [passedOn?, isAbsent, failure?, report]

/-- The opening goes on after a processor that is not there and after one that has no failure. -/
theorem passedOn?_eq_none_iff {outcome : Outcome} :
    outcome.passedOn? = none ↔ outcome.isAbsent ∨ outcome.failure? = none := by
  simp [passedOn?, Classical.or_iff_not_imp_left]

theorem passedOn?_eq_some_iff {outcome : Outcome} {reported : Errno} :
    outcome.passedOn? = some reported ↔
      outcome.isAbsent = false ∧
        ∃ code, outcome.failure? = some code ∧ outcome.report code = reported := by
  simp [passedOn?]

/-- A failure is passed on as it is, unless enabling has failed with a number that is not known. -/
theorem report_eq_self_iff {outcome : Outcome} {code : Errno}
    (fails : outcome.failure? = some code) :
    outcome.report code = code ↔ ∀ event, outcome = .unenabled event code → code.IsKnown := by
  cases outcome with
  | unenabled event code =>
    cases fails
    exact (Errno.orSuccess_eq_self_iff code).trans
      ⟨fun known _ _ => known, fun known => known event rfl⟩
  | _ => exact iff_of_true rfl fun _ impossible => nomatch impossible

theorem report_eq_success_of_ne {outcome : Outcome} {code : Errno}
    (changed : outcome.report code ≠ code) : outcome.report code = .success := by
  cases outcome with
  | unenabled _ _ => exact if_neg fun known => changed (if_pos known)
  | _ => exact absurd rfl changed

end Outcome

/-- A visit to a processor. -/
structure Visit where
  cpu : UInt32
  outcome : Outcome

namespace Visit

/-- The ring that the visit has published. -/
def ring? (length : UInt64) : Visit → Option Ring
  | ⟨cpu, .published event area⟩ => some ⟨cpu, ⟨event, true⟩, length, area⟩
  | _ => none

/-- The call that opens the event of a processor. -/
def opening (cpu : UInt32) (answer : Except Errno Handle) : SystemCall :=
  .openEvent (Attributes.programOutput.toBytes .host) cpu answer

/-- The calls of a visit, when rings of this length are stored in this array. -/
def calls (map : Handle) (length : UInt64) : Visit → List SystemCall
  | ⟨cpu, .unopened code⟩ => [opening cpu (.error code)]
  | ⟨cpu, .unmapped event code⟩ =>
    [opening cpu (.ok event), .mapEvent length event (.error code), .closeHandle event]
  | ⟨cpu, .unstored event code⟩ =>
    [opening cpu (.ok event), .mapEvent length event (.ok ()),
      .updateMap map cpu event.number (.error code),
      .unmapEvent length event, .closeHandle event]
  | ⟨cpu, .unenabled event code⟩ =>
    [opening cpu (.ok event), .mapEvent length event (.ok ()),
      .updateMap map cpu event.number (.ok ()), .enableEvent event (.error code),
      .unmapEvent length event, .closeHandle event]
  | ⟨cpu, .published event _⟩ =>
    [opening cpu (.ok event), .mapEvent length event (.ok ()),
      .updateMap map cpu event.number (.ok ()), .enableEvent event (.ok ())]

/-- A visit publishes a ring if its event is stored and enabled. -/
theorem ring?_eq_some_iff {length : UInt64} {visit : Visit} {ring : Ring} :
    visit.ring? length = some ring ↔ ∃ cpu event area,
      visit = ⟨cpu, .published event area⟩ ∧ ring = ⟨cpu, ⟨event, true⟩, length, area⟩ := by
  constructor
  · intro published
    obtain ⟨cpu, outcome⟩ := visit
    cases outcome <;> cases published
    exact ⟨cpu, _, _, rfl, rfl⟩
  · rintro ⟨cpu, event, area, rfl, rfl⟩
    rfl

end Visit

/-- The calls that give published rings up, one ring after the other. -/
inductive Closes : List Ring → List SystemCall → Prop where
  | nil : Closes [] []
  | cons (ring : Ring) (answer : Except Errno Unit) {rings : List Ring} {calls : List SystemCall}
      (later : Closes rings calls) :
      Closes (ring :: rings)
        (.unmapEvent ring.length ring.event.handle ::
          .disableEvent ring.event.handle answer :: .closeHandle ring.event.handle :: calls)

/-- How the visits to processors follow each other when some rings are open already: the visits that
are made, the calls that give rings up at the end, and the result. -/
inductive Course (length : UInt64) : (opened : List Ring) → (cpus : List UInt32) →
    (visits : List Visit) → (closing : List SystemCall) → Except OpenFault (List Ring) → Prop where
  | done (opened : List Ring) : Course length opened [] [] [] (.ok opened)
  | goOn {opened : List Ring} {cpus : List UInt32} {visits : List Visit}
      {closing : List SystemCall} {result : Except OpenFault (List Ring)} (visit : Visit)
      (passes : visit.outcome.passedOn? = none)
      (rest : Course length (opened ++ (visit.ring? length).toList) cpus visits closing result) :
      Course length opened (visit.cpu :: cpus) (visit :: visits) closing result
  | stop {opened : List Ring} {closing : List SystemCall} (visit : Visit) {code : Errno}
      (fails : visit.outcome.passedOn? = some code) (closes : Closes opened closing)
      (later : List UInt32) :
      Course length opened (visit.cpu :: later) [visit] closing (.error (.failed (.system code)))

namespace Course

variable {length : UInt64} {opened : List Ring} {cpus : List UInt32} {visits : List Visit}
  {closing : List SystemCall}

/-- Either each processor is visited and no visit stops the opening, or the last visit is the only
one that does, and the rings of all visits before it are given up. -/
theorem shape {result : Except OpenFault (List Ring)}
    (course : Course length opened cpus visits closing result) :
    (∃ rings, result = .ok rings ∧ visits.map Visit.cpu = cpus ∧ closing = [] ∧
      rings = opened ++ visits.filterMap (Visit.ring? length) ∧
      ∀ visit ∈ visits, visit.outcome.passedOn? = none) ∨
    ∃ code earlier last later, result = .error (.failed (.system code)) ∧
      visits = earlier ++ [last] ∧ cpus = earlier.map Visit.cpu ++ last.cpu :: later ∧
      (∀ visit ∈ earlier, visit.outcome.passedOn? = none) ∧
      last.outcome.passedOn? = some code ∧
      Closes (opened ++ earlier.filterMap (Visit.ring? length)) closing := by
  induction course with
  | done opened => exact .inl ⟨opened, rfl, rfl, rfl, (List.append_nil opened).symm, by simp⟩
  | @goOn opened cpus visits closing result visit passes rest ih =>
    have gathered (more : List Visit) :
        opened ++ (visit.ring? length).toList ++ more.filterMap (Visit.ring? length) =
          opened ++ (visit :: more).filterMap (Visit.ring? length) := by
      rw [List.append_assoc, List.filterMap_cons]
      cases visit.ring? length <;> rfl
    rcases ih with ⟨rings, rfl, rfl, rfl, rfl, settled⟩ |
      ⟨code, earlier, last, later, rfl, rfl, rfl, settled, fails, closes⟩
    · exact .inl ⟨_, rfl, rfl, rfl, gathered visits, List.forall_mem_cons.mpr ⟨passes, settled⟩⟩
    · exact .inr ⟨code, visit :: earlier, last, later, rfl, rfl, rfl,
        List.forall_mem_cons.mpr ⟨passes, settled⟩, fails, gathered earlier ▸ closes⟩
  | @stop opened closing visit code fails closes later =>
    exact .inr ⟨code, [], visit, later, rfl, rfl, rfl, by simp, fails,
      (List.append_nil opened).symm ▸ closes⟩

end Course

/-! ## The calls of one visit -/

namespace Ring

/-- Gives up a ring that was not published. -/
theorem makes_close_of_new (system : System σ) (cpu : UInt32) (event : Handle) (length : UInt64)
    (area : Area) :
    Machine.Makes (close system ⟨cpu, ⟨event, false⟩, length, area⟩) fun _ calls =>
      calls = [.unmapEvent length event, .closeHandle event] :=
  .perform fun _ => (OpenEvent.makes_close_of_new system event).weaken fun _ _ => congrArg _

theorem makes_close_of_enabled (system : System σ) {ring : Ring}
    (enabled : ring.event.enabled = true) :
    Machine.Makes (ring.close system) fun _ calls => ∃ answer, calls =
      [.unmapEvent ring.length ring.event.handle, .disableEvent ring.event.handle answer,
        .closeHandle ring.event.handle] := by
  obtain ⟨cpu, ⟨event, _⟩, length, area⟩ := ring
  cases enabled
  refine .perform fun _ => (OpenEvent.makes_close_of_enabled system event).weaken ?_
  rintro _ calls ⟨answer, rfl⟩
  exact ⟨answer, rfl⟩

/-- Creating a ring opens and maps its event, or the visit ends there. -/
theorem makes_create (system : System σ) (map : Handle) (cpu : UInt32) {pages length : UInt64}
    (counted : mappedLength? system.pageSize pages = some length) :
    Machine.Makes (create system cpu pages) fun result calls =>
      match result with
      | .error fault => ∃ code outcome, fault = .failed (.system code) ∧
        (outcome = .unopened code ∨ ∃ event, outcome = .unmapped event code) ∧
          calls = Visit.calls map length ⟨cpu, outcome⟩
      | .ok ring => ∃ event area, ring = ⟨cpu, ⟨event, false⟩, length, area⟩ ∧
          calls = [Visit.opening cpu (.ok event), .mapEvent length event (.ok ())] := by
  simp only [create, counted]
  refine .perform fun answer => ?_
  rcases answer with code | event
  · exact .pure ⟨code, .unopened code, rfl, .inl rfl, rfl⟩
  refine .perform fun answer => ?_
  rcases answer with code | area
  · refine (OpenEvent.makes_close_of_new system event).bind ?_
    rintro _ _ rfl
    exact .pure ⟨code, .unmapped event code, rfl, .inr ⟨event, rfl⟩, rfl⟩
  · exact .pure ⟨event, area, rfl, rfl⟩

/-- An event whose length cannot be counted is given up. -/
theorem makes_create_uncounted (system : System σ) (cpu : UInt32) {pages : UInt64}
    (uncounted : mappedLength? system.pageSize pages = none) :
    Machine.Makes (create system cpu pages) fun result calls =>
      (∃ code, result = .error (.failed (.system code)) ∧
        calls = [Visit.opening cpu (.error code)]) ∨
      ∃ event, result = .error .overflow ∧
        calls = [Visit.opening cpu (.ok event), .closeHandle event] := by
  simp only [create, uncounted]
  refine .perform fun answer => ?_
  rcases answer with code | event
  · exact .pure (.inl ⟨code, rfl, rfl⟩)
  · refine (OpenEvent.makes_close_of_new system event).bind ?_
    rintro _ _ rfl
    exact .pure (.inr ⟨event, rfl, rfl⟩)

/-- Publishing a ring ends the visit, whatever comes of it. -/
theorem makes_publish (system : System σ) (map : Handle) (cpu : UInt32) (event : Handle)
    (length : UInt64) (area : Area) :
    Machine.Makes (publish system map ⟨cpu, ⟨event, false⟩, length, area⟩) fun result calls =>
      ∃ outcome, [Visit.opening cpu (.ok event), .mapEvent length event (.ok ())] ++ calls =
          Visit.calls map length ⟨cpu, outcome⟩ ∧
        match result with
        | .error code => outcome.passedOn? = some code
        | .ok ring =>
          outcome = .published event area ∧ ring = ⟨cpu, ⟨event, true⟩, length, area⟩ := by
  refine .perform fun answer => ?_
  rcases answer with code | _
  · refine (makes_close_of_new system cpu event length area).bind ?_
    rintro _ _ rfl
    exact .pure ⟨.unstored event code, rfl, rfl⟩
  refine (OpenEvent.makes_enable system ⟨event, false⟩).bind ?_
  rintro result _ ⟨code | _, rfl, rfl⟩
  · refine (makes_close_of_new system cpu event length area).bind ?_
    rintro _ _ rfl
    exact .pure ⟨.unenabled event code, rfl, rfl⟩
  · exact .pure ⟨.published event area, rfl, rfl, rfl⟩

end Ring

namespace Buffer

theorem makes_closeRings (system : System σ) :
    ∀ {rings : List Ring}, (∀ ring ∈ rings, ring.event.enabled = true) →
      Machine.Makes (closeRings system rings) fun _ calls => Closes rings calls
  | [], _ => .pure .nil
  | ring :: rest, enabled => by
    refine (Ring.makes_close_of_enabled system (enabled ring List.mem_cons_self)).bind ?_
    rintro _ _ ⟨answer, rfl⟩
    exact (makes_closeRings system fun ring later => enabled ring (.tail _ later)).weaken
      fun _ _ closes => closes.cons ring answer

/-- A visit that fails is the last one. -/
theorem makes_stop (system : System σ) (map : Handle) (length : UInt64) {opened : List Ring}
    (enabled : ∀ ring ∈ opened, ring.event.enabled = true) (visit : Visit) {code : Errno}
    (fails : visit.outcome.passedOn? = some code) (later : List UInt32) :
    Machine.Makes (do
        closeRings system opened
        return (.error (.failed (.system code)), ([] : Log)))
      fun answer calls => ∃ visits closing,
        visit.calls map length ++ calls = visits.flatMap (Visit.calls map length) ++ closing ∧
        Course length opened (visit.cpu :: later) visits closing answer.1 := by
  refine (makes_closeRings system enabled).bind ?_
  intro _ closing closes
  refine .pure ⟨[visit], closing, ?_, .stop visit fails closes later⟩
  rw [List.append_nil, List.flatMap_singleton]

/-- The loop follows a course. -/
theorem makes_openRings (system : System σ) (name : String) (map : Handle)
    {pages length : UInt64} (counted : mappedLength? system.pageSize pages = some length)
    (cpus : List UInt32) {opened : List Ring}
    (enabled : ∀ ring ∈ opened, ring.event.enabled = true) :
    Machine.Makes (openRings system name map pages cpus opened) fun answer calls =>
      ∃ visits closing, calls = visits.flatMap (Visit.calls map length) ++ closing ∧
        Course length opened cpus visits closing answer.1 := by
  -- on the processors that are left, while all rings that are open stay enabled
  induction cpus generalizing opened with
  | nil => exact .pure ⟨[], [], rfl, .done opened⟩
  | cons cpu rest ih =>
    refine (Ring.makes_create system map cpu counted).bind ?_
    rintro (fault | ring) before created
    · obtain ⟨code, outcome, rfl, ends, rfl⟩ := created
      have passes := Outcome.passedOn?_of_uncreated ends
      have noRing : Visit.ring? length ⟨cpu, outcome⟩ = none := by
        rcases ends with rfl | ⟨event, rfl⟩ <;> rfl
      simp only [OpenFault.failed.injEq, IoError.system.injEq]
      by_cases same : code = .noDevice
      · simp only [if_pos same] at passes ⊢
        refine (ih enabled).bind ?_
        rintro ⟨result, log⟩ _ ⟨visits, closing, rfl, course⟩
        refine .pure ⟨⟨cpu, outcome⟩ :: visits, closing, ?_, .goOn ⟨cpu, outcome⟩ passes ?_⟩
        · rw [List.append_nil, List.flatMap_cons, List.append_assoc]
        · rwa [noRing, Option.toList_none, List.append_nil]
      · simp only [if_neg same] at passes ⊢
        exact makes_stop system map length enabled ⟨cpu, outcome⟩ passes rest
    · obtain ⟨event, area, rfl, rfl⟩ := created
      refine (Ring.makes_publish system map cpu event _ area).bind ?_
      rintro (code | ring) _ ⟨outcome, visited, ended⟩
      · refine (makes_stop system map length enabled ⟨cpu, outcome⟩ ended rest).weaken ?_
        rintro answer calls ⟨visits, closing, same, course⟩
        exact ⟨visits, closing, by rw [← same, ← visited, List.append_assoc], course⟩
      · obtain ⟨rfl, rfl⟩ := ended
        refine (ih fun ring present => ?_).weaken ?_
        · rcases List.mem_append.mp present with before | last
          · exact enabled ring before
          · rw [List.mem_singleton.mp last]
        · rintro answer calls ⟨visits, closing, rfl, course⟩
          refine ⟨⟨cpu, .published event area⟩ :: visits, closing, ?_, .goOn ⟨cpu, _⟩ rfl course⟩
          rw [List.flatMap_cons, ← visited, List.append_assoc, List.append_assoc]

end Buffer

/-! ## Lengths that cannot be counted -/

/-- The length of a mapping fits in a word exactly if it is one. -/
theorem mappedLength?_eq_some_iff {pageSize pages length : UInt64} :
    mappedLength? pageSize pages = some length ↔
      length.toNat = (pages.toNat + 1) * pageSize.toNat := by
  simp only [mappedLength?]
  constructor
  · intro counted
    split at counted
    · next small =>
      cases counted
      exact UInt64.toNat_ofNat_of_lt' small
    · cases counted
  · intro same
    rw [← same, if_pos length.toNat_lt, UInt64.ofNat_toNat]

theorem mappedLength?_eq_none_iff {pageSize pages : UInt64} :
    mappedLength? pageSize pages = none ↔ 2 ^ 64 ≤ (pages.toNat + 1) * pageSize.toNat := by
  simp [mappedLength?]

/-- The call by which a processor that is not there is passed over. -/
def Visit.absence (cpu : UInt32) : SystemCall := opening cpu (.error .noDevice)

/-- How an opening goes when the length of a mapping cannot be counted. Processors that are not
there are passed over, and any other one is the last. Nothing is mapped, stored or enabled. -/
inductive Uncounted :
    (cpus : List UInt32) → Except OpenFault (List Ring) → List SystemCall → Prop where
  /-- No processor is there. -/
  | absent (cpus : List UInt32) : Uncounted cpus (.ok []) (cpus.map Visit.absence)
  /-- An event cannot be opened. -/
  | unopened (before : List UInt32) (cpu : UInt32) (later : List UInt32) {code : Errno}
      (other : code ≠ .noDevice) :
      Uncounted (before ++ cpu :: later) (.error (.failed (.system code)))
        (before.map Visit.absence ++ [Visit.opening cpu (.error code)])
  /-- An event is opened, and given up when its length is computed. -/
  | overflow (before : List UInt32) (cpu : UInt32) (later : List UInt32) (event : Handle) :
      Uncounted (before ++ cpu :: later) (.error .overflow)
        (before.map Visit.absence ++ [Visit.opening cpu (.ok event), .closeHandle event])

theorem Uncounted.cons {cpus : List UInt32} {result : Except OpenFault (List Ring)}
    {calls : List SystemCall} (uncounted : Uncounted cpus result calls) (cpu : UInt32) :
    Uncounted (cpu :: cpus) result (Visit.absence cpu :: calls) := by
  cases uncounted with
  | absent => exact .absent (cpu :: cpus)
  | unopened before last later other => exact .unopened (cpu :: before) last later other
  | overflow before last later event => exact .overflow (cpu :: before) last later event

theorem Buffer.makes_openRings_uncounted (system : System σ) (name : String) (map : Handle)
    {pages : UInt64} (uncounted : mappedLength? system.pageSize pages = none)
    (cpus : List UInt32) :
    Machine.Makes (openRings system name map pages cpus []) fun answer calls =>
      Uncounted cpus answer.1 calls := by
  induction cpus with
  | nil => exact .pure (.absent [])
  | cons cpu rest ih =>
    have stops {fault : OpenFault} {calls : List SystemCall}
        (ended : Uncounted (cpu :: rest) (.error fault) calls) :
        Machine.Makes (do
            closeRings system []
            return (.error fault, ([] : Log)))
          fun answer more => Uncounted (cpu :: rest) answer.1 (calls ++ more) :=
      .pure ((List.append_nil calls).symm ▸ ended)
    refine (Ring.makes_create_uncounted system cpu uncounted).bind ?_
    rintro _ _ (⟨code, rfl, rfl⟩ | ⟨event, rfl, rfl⟩)
    · simp only [OpenFault.failed.injEq, IoError.system.injEq]
      by_cases same : code = .noDevice
      · rw [if_pos same, same]
        refine ih.bind fun answer calls ended => .pure ?_
        rw [List.append_nil]
        exact ended.cons cpu
      · rw [if_neg same]
        exact stops (.unopened [] cpu rest same)
    · exact stops (.overflow [] cpu rest event)

/-! ## Calls and rings of several visits -/

namespace Visit

/-- The calls of a visit name no other processor. -/
theorem cpu?_of_mem_calls (map : Handle) (length : UInt64) (visit : Visit) :
    ∀ call ∈ visit.calls map length, call.cpu? = none ∨ call.cpu? = some visit.cpu := by
  obtain ⟨cpu, outcome⟩ := visit
  cases outcome <;> simp [calls, opening, SystemCall.cpu?]

theorem mem_cpus_of_mem_calls {map : Handle} {length : UInt64} {visits : List Visit}
    {call : SystemCall} (made : call ∈ visits.flatMap (calls map length)) {cpu : UInt32}
    (names : call.cpu? = some cpu) : cpu ∈ visits.map Visit.cpu := by
  obtain ⟨visit, present, made⟩ := List.mem_flatMap.mp made
  rcases cpu?_of_mem_calls map length visit call made with nothing | same
  · cases nothing.symm.trans names
  · exact List.mem_map.mpr ⟨visit, present, Option.some.inj (same.symm.trans names)⟩

theorem failures_calls (map : Handle) (length : UInt64) (visit : Visit) :
    (visit.calls map length).filterMap SystemCall.failure? = visit.outcome.failure?.toList := by
  obtain ⟨cpu, outcome⟩ := visit
  cases outcome <;> rfl

/-- Nothing is stored for a processor that is not there. -/
theorem updateMap_notMem_of_isAbsent {map : Handle} {length : UInt64} {visit : Visit}
    (absent : visit.outcome.isAbsent) (array : Handle) (key value : UInt32)
    (answer : Except Errno Unit) : .updateMap array key value answer ∉ visit.calls map length := by
  obtain ⟨cpu, outcome⟩ := visit
  cases outcome with
  | unopened code => simp [calls, opening]
  | unmapped event code => simp [calls, opening]
  | _ => cases absent

theorem ring?_of_isAbsent (length : UInt64) {visit : Visit} (absent : visit.outcome.isAbsent) :
    visit.ring? length = none := by
  obtain ⟨cpu, outcome⟩ := visit
  cases outcome with
  | published event area => cases absent
  | _ => rfl

/-- If no visit stops the opening, exactly the processors that are there have a ring. -/
theorem map_cpu_filterMap_ring? (length : UInt64) {visits : List Visit}
    (settled : ∀ visit ∈ visits, visit.outcome.passedOn? = none) :
    (visits.filterMap (ring? length)).map Ring.cpu =
      (visits.filter fun visit => !visit.outcome.isAbsent).map Visit.cpu := by
  induction visits with
  | nil => rfl
  | cons visit rest ih =>
    obtain ⟨passes, settled⟩ := List.forall_mem_cons.mp settled
    have later := ih settled
    rcases Outcome.passedOn?_eq_none_iff.mp passes with absent | succeeds
    · rw [List.filterMap_cons_none (ring?_of_isAbsent length absent),
        List.filter_cons_of_neg (by simp [absent])]
      exact later
    · obtain ⟨cpu, outcome⟩ := visit
      cases outcome <;> cases succeeds
      exact congrArg (cpu :: ·) later

/-- Nothing is stored under a processor that is not there if it is visited once. -/
theorem updateMap_notMem_of_nodup {map : Handle} {length : UInt64} {visits : List Visit}
    (distinct : (visits.map Visit.cpu).Nodup) {visit : Visit} (present : visit ∈ visits)
    (absent : visit.outcome.isAbsent) (array : Handle) (value : UInt32)
    (answer : Except Errno Unit) :
    .updateMap array visit.cpu value answer ∉ visits.flatMap (calls map length) := by
  intro made
  obtain ⟨other, alsoPresent, made⟩ := List.mem_flatMap.mp made
  rcases cpu?_of_mem_calls map length other _ made with impossible | same
  · cases impossible
  · have one : other = visit := List.inj_on_of_nodup_map distinct alsoPresent present
      (Option.some.inj same).symm
    exact updateMap_notMem_of_isAbsent absent array _ value answer (one ▸ made)

/-- A ring that one of the visits has published is stored once, and then enabled. -/
theorem exists_stored {map : Handle} {length : UInt64} {visits : List Visit}
    (distinct : (visits.map Visit.cpu).Nodup) {ring : Ring}
    (present : ring ∈ visits.filterMap (ring? length)) :
    ∃ before after, visits.flatMap (calls map length) = before ++
        [.updateMap map ring.cpu ring.event.handle.number (.ok ()),
          .enableEvent ring.event.handle (.ok ())] ++ after ∧
      ∀ array value answer, .updateMap array ring.cpu value answer ∉ before ++ after := by
  obtain ⟨visit, present, published⟩ := List.mem_filterMap.mp present
  obtain ⟨earlier, later, rfl⟩ := List.append_of_mem present
  obtain ⟨cpu, event, area, rfl, rfl⟩ := ring?_eq_some_iff.mp published
  rw [List.map_append, List.map_cons, List.nodup_middle, List.nodup_cons] at distinct
  refine ⟨earlier.flatMap (calls map length) ++
      [opening cpu (.ok event), .mapEvent length event (.ok ())],
    later.flatMap (calls map length), by simp [calls], ?_⟩
  intro array value answer made
  have elsewhere : .updateMap array cpu value answer ∈
      (earlier ++ later).flatMap (calls map length) := by
    simpa [opening] using made
  exact distinct.1 (List.map_append ▸ mem_cpus_of_mem_calls elsewhere rfl)

end Visit

theorem Closes.cpu?_eq_none {rings : List Ring} {closing : List SystemCall}
    (closes : Closes rings closing) : ∀ call ∈ closing, call.cpu? = none := by
  induction closes with
  | nil => simp
  | cons ring answer later ih => simpa [SystemCall.cpu?] using ih

/-! ## The whole opening -/

/-- What a buffer is that was opened by these visits, with these calls. -/
structure Opened (map : Handle) (length : UInt64) (name : String) (cpus : List UInt32)
    (visits : List Visit) (calls : List SystemCall) (buffer : Buffer) : Prop where
  /-- Every processor is visited, in order. -/
  visited : visits.map Visit.cpu = cpus
  called : calls = visits.flatMap (Visit.calls map length)
  gathered : buffer = ⟨name, visits.filterMap (Visit.ring? length), 0⟩
  /-- Only the processors that are not there have no ring. -/
  cpus_rings : buffer.rings.map Ring.cpu =
    (visits.filter fun visit => !visit.outcome.isAbsent).map Visit.cpu
  /-- The handle of each ring is stored under its processor, where nothing else is ever stored,
  and then its event is enabled. -/
  stored : ∀ ring ∈ buffer.rings, ∃ before after,
    calls = before ++
      [.updateMap map ring.cpu ring.event.handle.number (.ok ()),
        .enableEvent ring.event.handle (.ok ())] ++ after ∧
      ∀ array value answer, .updateMap array ring.cpu value answer ∉ before ++ after
  /-- Nothing is stored under a processor that is not there. -/
  unwritten : ∀ visit ∈ visits, visit.outcome.isAbsent → ∀ array value answer,
    .updateMap array visit.cpu value answer ∉ calls

/-- How the opening stops at the failure of a visit, which some visits came before. -/
structure Stopped (map : Handle) (length : UInt64) (cpus : List UInt32) (earlier : List Visit)
    (last : Visit) (calls : List SystemCall) (code reported : Errno) : Prop where
  /-- The processors are visited in order, and some may be left. -/
  visited : ∃ later, cpus = earlier.map Visit.cpu ++ last.cpu :: later ∧
    ∀ cpu ∈ later, ∀ call ∈ calls, call.cpu? ≠ some cpu
  called : ∃ closing,
    calls = earlier.flatMap (Visit.calls map length) ++ last.calls map length ++ closing ∧
      Closes (earlier.filterMap (Visit.ring? length)) closing
  /-- It is the first failure other than that a processor is not there. -/
  first : ∀ visit ∈ earlier, visit.outcome.isAbsent ∨
    (visit.calls map length).filterMap SystemCall.failure? = []
  failed : (last.calls map length).filterMap SystemCall.failure? = [code]
  present : last.outcome.isAbsent = false
  /-- The failure is returned as it is, unless enabling has failed with an unknown number. -/
  same : reported = code ↔ ∀ event, last.outcome = .unenabled event code → code.IsKnown
  /-- What is returned in place of such a number. -/
  changed : reported ≠ code → reported = .success

namespace Course

variable {length : UInt64} {cpus : List UInt32} {visits : List Visit}
  {closing : List SystemCall}

/-- What is known of a course by which a buffer was opened. -/
theorem opened (map : Handle) (name : String) {rings : List Ring}
    (course : Course length [] cpus visits closing (.ok rings)) (distinct : cpus.Nodup) :
    Opened map length name cpus visits (visits.flatMap (Visit.calls map length) ++ closing)
      ⟨name, rings, 0⟩ := by
  rcases course.shape with ⟨_, same, rfl, rfl, rfl, settled⟩ | ⟨_, _, _, _, impossible, _⟩
  · cases same
    rw [List.append_nil]
    exact ⟨rfl, rfl, rfl, Visit.map_cpu_filterMap_ring? length settled,
      fun ring present => Visit.exists_stored distinct present,
      fun visit present absent array value answer =>
        Visit.updateMap_notMem_of_nodup distinct present absent array value answer⟩
  · cases impossible

/-- What is known of a course that has stopped. -/
theorem stopped (map : Handle) {fault : OpenFault}
    (course : Course length [] cpus visits closing (.error fault)) (distinct : cpus.Nodup) :
    ∃ reported earlier last code, fault = .failed (.system reported) ∧
      Stopped map length cpus earlier last (visits.flatMap (Visit.calls map length) ++ closing)
        code reported := by
  rcases course.shape with ⟨_, impossible, _⟩ |
    ⟨_, earlier, last, later, same, rfl, rfl, settled, fails, closes⟩
  · cases impossible
  · cases same
    obtain ⟨present, code, failed, rfl⟩ := Outcome.passedOn?_eq_some_iff.mp fails
    refine ⟨_, earlier, last, code, rfl, ⟨later, rfl, ?_⟩, ⟨closing, by simp, closes⟩,
      fun visit before => ?_, ?_, present, Outcome.report_eq_self_iff failed,
      Outcome.report_eq_success_of_ne⟩
    · -- no later processor is named by a call
      intro cpu waits call made names
      rcases List.mem_append.mp made with visiting | closing
      · have apart : ((earlier ++ [last]).map Visit.cpu ++ later).Nodup := by simpa using distinct
        exact List.disjoint_of_nodup_append apart (Visit.mem_cpus_of_mem_calls visiting names) waits
      · cases (closes.cpu?_eq_none call closing).symm.trans names
    · rw [Visit.failures_calls, Option.toList_eq_nil_iff]
      exact Outcome.passedOn?_eq_none_iff.mp (settled visit before)
    · rw [Visit.failures_calls, failed, Option.toList_some]

end Course

theorem Buffer.isPowerOfTwo_iff (number : UInt64) :
    isPowerOfTwo number ↔ IsRingSize number.toNat := by
  simp [isPowerOfTwo, IsRingSize, Nat.one_shiftLeft]

namespace Buffer

theorem makes_create_refused (system : System σ) (name : String) (map : Handle)
    (cpus : List UInt32) {pages : UInt64} (refused : ¬ IsRingSize pages.toNat) :
    Machine.Makes (create system name map cpus pages) fun answer calls =>
      answer.1 = .error (.failed (.invalidInput
        s!"perf buffer pages must be a power of two, got {pages.toNat}")) ∧ calls = [] := by
  have rejected : isPowerOfTwo pages = false :=
    Bool.eq_false_iff.mpr fun accepted => refused ((isPowerOfTwo_iff pages).mp accepted)
  simp only [create, rejected]
  exact .pure ⟨rfl, rfl⟩

theorem makes_create_counted (system : System σ) (name : String) (map : Handle)
    {cpus : List UInt32} (distinct : cpus.Nodup) {pages length : UInt64}
    (ringSize : IsRingSize pages.toNat)
    (counted : mappedLength? system.pageSize pages = some length) :
    Machine.Makes (create system name map cpus pages) fun answer calls =>
      (∃ buffer visits, answer.1 = .ok buffer ∧
        Opened map length name cpus visits calls buffer) ∨
      ∃ reported earlier last code, answer.1 = .error (.failed (.system reported)) ∧
        Stopped map length cpus earlier last calls code reported := by
  simp only [create, (isPowerOfTwo_iff pages).mpr ringSize]
  refine (makes_openRings system name map counted cpus (by simp)).bind ?_
  rintro ⟨fault | rings, log⟩ _ ⟨visits, closing, rfl, course⟩
  · obtain ⟨reported, earlier, last, code, rfl, stopped⟩ := course.stopped map distinct
    refine .pure (.inr ⟨reported, earlier, last, code, rfl, ?_⟩)
    rwa [List.append_nil]
  · refine .pure (.inl ⟨_, visits, rfl, ?_⟩)
    rw [List.append_nil]
    exact course.opened map name distinct

theorem makes_create_uncounted (system : System σ) (name : String) (map : Handle)
    (cpus : List UInt32) {pages : UInt64} (ringSize : IsRingSize pages.toNat)
    (uncounted : mappedLength? system.pageSize pages = none) :
    Machine.Makes (create system name map cpus pages) fun answer calls =>
      ∃ result, answer.1 = result.map (fun rings => ⟨name, rings, 0⟩) ∧
        Uncounted cpus result calls := by
  simp only [create, (isPowerOfTwo_iff pages).mpr ringSize]
  refine (makes_openRings_uncounted system name map uncounted cpus).bind ?_
  rintro ⟨result, log⟩ calls ended
  rw [← List.append_nil calls] at ended
  cases result with
  | error fault => exact .pure ⟨.error fault, rfl, ended⟩
  | ok rings => exact .pure ⟨.ok rings, rfl, ended⟩

/-- What the opening of a buffer does, for every system. With a wrong number of pages it makes no
call. Otherwise, if the length of a mapping fits in a word, it visits one processor after the other
and stops at the first failure; if it does not, no processor is visited behind the first event that
is opened. -/
theorem create_publishes (system : System σ) (name : String) (map : Handle)
    {cpus : List UInt32} (distinct : cpus.Nodup) (pages : UInt64) :
    Machine.Makes (create system name map cpus pages) fun answer calls =>
      (¬ IsRingSize pages.toNat →
        answer.1 = .error (.failed (.invalidInput
          s!"perf buffer pages must be a power of two, got {pages.toNat}")) ∧ calls = []) ∧
      (IsRingSize pages.toNat → ∀ length : UInt64,
        length.toNat = (pages.toNat + 1) * system.pageSize.toNat →
          (∃ buffer visits, answer.1 = .ok buffer ∧
            Opened map length name cpus visits calls buffer) ∨
          ∃ reported earlier last code, answer.1 = .error (.failed (.system reported)) ∧
            Stopped map length cpus earlier last calls code reported) ∧
      (IsRingSize pages.toNat → 2 ^ 64 ≤ (pages.toNat + 1) * system.pageSize.toNat →
        ∃ result, answer.1 = result.map (fun rings => ⟨name, rings, 0⟩) ∧
          Uncounted cpus result calls) := by
  by_cases ringSize : IsRingSize pages.toNat
  · cases computed : mappedLength? system.pageSize pages with
    | some length =>
      refine (makes_create_counted system name map distinct ringSize computed).weaken ?_
      intro answer calls ends
      refine ⟨absurd ringSize, fun _ other counts => ?_, fun _ large => ?_⟩
      · obtain rfl : length = other :=
          Option.some.inj (computed.symm.trans (mappedLength?_eq_some_iff.mpr counts))
        exact ends
      · cases computed.symm.trans (mappedLength?_eq_none_iff.mpr large)
    | none =>
      refine (makes_create_uncounted system name map cpus ringSize computed).weaken ?_
      intro answer calls ends
      refine ⟨absurd ringSize, fun _ length counts => ?_, fun _ _ => ends⟩
      cases computed.symm.trans (mappedLength?_eq_some_iff.mpr counts)
  · refine (makes_create_refused system name map cpus ringSize).weaken ?_
    intro answer calls ends
    exact ⟨fun _ => ends, fun accepted => absurd accepted ringSize,
      fun accepted => absurd accepted ringSize⟩

/-- The second of three processors is not there. -/
def offline : ScriptedSystem where
  script := ⟨100, fun kind => if kind = .openEvent then [0, Errno.noDevice.number] else []⟩
  verifierText := []
  rings := []

theorem create_publishes_offline :
    ([3, 1, 4] : List UInt32).Nodup ∧
      ∃ buffer visits calls,
        (create ScriptedSystem.system "tcp" ⟨50⟩ [3, 1, 4] 1 (.start offline)).1.1 = .ok buffer ∧
          buffer.rings.map Ring.cpu = [3, 4] ∧
          Opened ⟨50⟩ 8192 "tcp" [3, 1, 4] visits calls buffer := by
  refine ⟨by decide, ?_⟩
  obtain ⟨calls, _, _, opens, _⟩ := create_publishes ScriptedSystem.system "tcp" ⟨50⟩
    (by decide : ([3, 1, 4] : List UInt32).Nodup) 1 (.start offline)
  have cpus : ((create ScriptedSystem.system "tcp" ⟨50⟩ [3, 1, 4] 1 (.start offline)).1.1.map
      fun buffer => buffer.rings.map Ring.cpu).toOption = some [3, 4] := by decide +kernel
  rcases opens ⟨0, by decide, rfl⟩ 8192 rfl with
    ⟨buffer, visits, ok, opened⟩ | ⟨_, _, _, _, failed, _⟩
  · rw [ok] at cpus
    exact ⟨buffer, visits, calls, ok, Option.some.inj cpus, opened⟩
  · rw [failed] at cpus
    cases cpus

/-- An event cannot be enabled, and the number of the failure has no text. -/
def unlisted : ScriptedSystem where
  script := ⟨100, fun kind => if kind = .enableEvent then [524] else []⟩
  verifierText := []
  rings := []

/-- The number is lost: the opening fails with the number of success. -/
theorem create_unlisted :
    let opening := create ScriptedSystem.system "tcp" ⟨50⟩ [0] 1 (.start unlisted)
    opening.2.calls.filterMap SystemCall.failure? = [⟨524⟩] ∧
      opening.1.1 = .error (.failed (.system ⟨0⟩)) := by
  decide +kernel

end Buffer

end Perf

end ProbeStream
