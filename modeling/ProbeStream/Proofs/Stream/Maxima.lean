import Mathlib.Data.Set.Insert
import ProbeStream.Proofs.Event.Wire
import ProbeStream.Proofs.Stream.Order

/-!
# Running maxima

A decoder that goes on after every refusal accepts exactly the events that are not older than any it
has accepted before. Its state is the latest time that it has accepted (`isGreatest_decodeAll`), and
neither an event that it refuses nor a buffer without one changes that. So without those buffers it
accepts the same events and ends in the same state (`decodeAll_kept`).

What one call says is read off the state alone (`accepts_iff`, `refuses_iff`, `fails_iff`), and the
call number `k` of a run finds the state behind the first `k` buffers (`getElem?_decodeAll`).
-/

namespace ProbeStream.Decoder

variable {family : Family} {raw : Bytes}

/-! ## One call -/

/-- A call returns an event that is not older than the state, which becomes its time, or it changes
nothing. -/
theorem decode_cases (family : Family) (decoder : Decoder) (raw : Bytes) :
    (∃ event, decoder.lastTimestamp ≤ event.timestamp ∧
        decoder.decode family raw = (.ok event, ⟨decoder.order, event.timestamp⟩)) ∨
      ∃ failure, decoder.decode family raw = (.error failure, decoder) := by
  cases read : Event.decode family decoder.order raw with
  | error failure => exact .inr ⟨failure, decode_of_error read⟩
  | ok event =>
    by_cases late : event.timestamp < decoder.lastTimestamp
    · exact .inr ⟨_, decode_of_late read late⟩
    · exact .inl ⟨event, UInt64.not_lt.mp late, decode_of_onTime read late⟩

theorem accepts_iff (decoder : Decoder) {event : Event family} :
    (decoder.decode family raw).1 = .ok event ↔
      Event.decode family decoder.order raw = .ok event ∧
        decoder.lastTimestamp ≤ event.timestamp := by
  cases read : Event.decode family decoder.order raw with
  | error failure => simp [decode_of_error read]
  | ok found =>
    by_cases late : found.timestamp < decoder.lastTimestamp
    · simp only [decode_of_late read late, reduceCtorEq, Except.ok.injEq, false_iff, not_and]
      rintro rfl
      exact UInt64.not_le.mpr late
    · simp only [decode_of_onTime read late, Except.ok.injEq]
      refine ⟨?_, And.left⟩
      rintro rfl
      exact ⟨rfl, UInt64.not_lt.mp late⟩

theorem refuses_iff (decoder : Decoder) {time last : UInt64} :
    (decoder.decode family raw).1 = .error (.ordering time last) ↔
      ∃ event, Event.decode family decoder.order raw = .ok event ∧ event.timestamp = time ∧
        time < last ∧ decoder.lastTimestamp = last := by
  cases read : Event.decode family decoder.order raw with
  | error failure =>
    obtain ⟨_, rfl⟩ := Event.decode_eq_error_iff.mp read
    simp [decode_of_error read]
  | ok event =>
    by_cases late : event.timestamp < decoder.lastTimestamp
    · simp only [decode_of_late read late, Except.error.injEq, StreamError.ordering.injEq,
        Except.ok.injEq, exists_eq_left']
      refine ⟨?_, fun both => ⟨both.1, both.2.2⟩⟩
      rintro ⟨rfl, rfl⟩
      exact ⟨rfl, late, rfl⟩
    · simp only [decode_of_onTime read late, reduceCtorEq, Except.ok.injEq, exists_eq_left',
        false_iff]
      rintro ⟨rfl, older, rfl⟩
      exact late older

theorem fails_iff (decoder : Decoder) {need got : Nat} :
    (decoder.decode family raw).1 = .error (.decode need got) ↔
      raw.length < family.recordSize ∧ need = family.recordSize ∧ got = raw.length := by
  have short := @Event.decode_eq_error_iff family decoder.order raw (.decode need got)
  rw [StreamError.decode.injEq] at short
  rw [← short]
  cases read : Event.decode family decoder.order raw with
  | error failure => simp [decode_of_error read]
  | ok event =>
    by_cases late : event.timestamp < decoder.lastTimestamp
    · simp [decode_of_late read late]
    · simp [decode_of_onTime read late]

/-! ## One call after the other -/

/-- The events that were accepted, by what was said to each buffer. -/
def acceptedIn (verdicts : List (Except StreamError (Event family))) : List (Event family) :=
  verdicts.filterMap Except.toOption

@[simp] theorem acceptedIn_ok (event : Event family)
    (rest : List (Except StreamError (Event family))) :
    acceptedIn (.ok event :: rest) = event :: acceptedIn rest := rfl

@[simp] theorem acceptedIn_error (failure : StreamError)
    (rest : List (Except StreamError (Event family))) :
    acceptedIn (.error failure :: rest) = acceptedIn rest := rfl

/-- The buffers whose events are accepted. -/
def kept (family : Family) (decoder : Decoder) (buffers : List Bytes) : List Bytes :=
  ((buffers.zip (decoder.decodeAll family buffers).1).filter (·.2.isOk)).map Prod.fst

theorem decodeAll_cons {decoder next : Decoder} {verdict : Except StreamError (Event family)}
    (said : decoder.decode family raw = (verdict, next)) (rest : List Bytes) :
    decoder.decodeAll family (raw :: rest) =
      (verdict :: (next.decodeAll family rest).1, (next.decodeAll family rest).2) := by
  rw [decodeAll, said]

theorem length_decodeAll (decoder : Decoder) (buffers : List Bytes) :
    (decoder.decodeAll family buffers).1.length = buffers.length := by
  induction buffers generalizing decoder with
  | nil => rfl
  | cons raw rest ih => simp [decodeAll, ih]

/-- What was said to the first buffers does not depend on those behind them. -/
theorem decodeAll_take (decoder : Decoder) (buffers : List Bytes) (count : Nat) :
    (decoder.decodeAll family (buffers.take count)).1 =
      (decoder.decodeAll family buffers).1.take count := by
  induction buffers generalizing decoder count with
  | nil => simp [decodeAll]
  | cons raw rest ih =>
    cases count with
    | zero => rfl
    | succ count => simp [decodeAll, ih]

/-- A call finds the state behind the buffers in front of it. -/
theorem getElem?_decodeAll (decoder : Decoder) (buffers : List Bytes) (place : Nat) :
    (decoder.decodeAll family buffers).1[place]? = buffers[place]?.map fun raw =>
      ((decoder.decodeAll family (buffers.take place)).2.decode family raw).1 := by
  induction buffers generalizing decoder place with
  | nil => rfl
  | cons raw rest ih =>
    cases place with
    | zero => rfl
    | succ place => simpa [decodeAll] using ih (decoder.decode family raw).2 place

theorem order_decodeAll (decoder : Decoder) (buffers : List Bytes) :
    (decoder.decodeAll family buffers).2.order = decoder.order := by
  induction buffers generalizing decoder with
  | nil => rfl
  | cons raw rest ih =>
    refine (ih (decoder.decode family raw).2).trans ?_
    obtain ⟨event, _, same⟩ | ⟨failure, same⟩ := decode_cases family decoder raw <;> rw [same]

/-! ## The latest time -/

theorem times_cons (event : Event family) (rest : List (Event family)) :
    times (event :: rest) = insert event.timestamp (times rest) := by
  ext time
  simp [times, eq_comm]

/-- What is not older than any of some events is not older than the latest. -/
theorem latest_le_iff {events : List (Event family)} {last time : UInt64}
    (latest : IsGreatest (insert 0 (times events)) last) :
    last ≤ time ↔ ∀ earlier ∈ events, earlier.timestamp ≤ time := by
  constructor
  · intro notOlder earlier member
    exact UInt64.le_trans (latest.2 (.inr ⟨earlier, member, rfl⟩)) notOlder
  · intro notOlder
    rcases latest.1 with rfl | ⟨event, member, rfl⟩
    · exact UInt64.zero_le
    · exact notOlder event member

theorem eq_iff_isGreatest {set : Set UInt64} {greatest other : UInt64}
    (isGreatest : IsGreatest set greatest) : greatest = other ↔ IsGreatest set other := by
  constructor
  · rintro rfl
    exact isGreatest
  · rintro ⟨member, bound⟩
    exact UInt64.le_antisymm (bound isGreatest.1) (isGreatest.2 member)

/-- The state is the latest of the time at the beginning and those that were accepted. -/
theorem isGreatest_decodeAll (decoder : Decoder) (buffers : List Bytes) :
    IsGreatest
      (insert decoder.lastTimestamp (times (acceptedIn (decoder.decodeAll family buffers).1)))
      (decoder.decodeAll family buffers).2.lastTimestamp := by
  induction buffers generalizing decoder with
  | nil =>
    refine ⟨.inl rfl, ?_⟩
    rintro time (rfl | ⟨_, none, _⟩)
    · exact UInt64.le_refl _
    · exact nomatch none
  | cons raw rest ih =>
    obtain ⟨event, onTime, said⟩ | ⟨failure, said⟩ := decode_cases family decoder raw
    · -- the time of the event lies between the state before it and the one at the end
      obtain ⟨reached, bound⟩ := ih ⟨decoder.order, event.timestamp⟩
      rw [decodeAll_cons said]
      dsimp only
      rw [acceptedIn_ok, times_cons]
      refine ⟨.inr reached, ?_⟩
      rintro time (rfl | later)
      · exact UInt64.le_trans onTime (bound (.inl rfl))
      · exact bound later
    · rw [decodeAll_cons said]
      dsimp only
      rw [acceptedIn_error]
      exact ih decoder

/-- Without the buffers that are refused or hold no event, the same events are accepted and the
state at the end is the same. -/
theorem decodeAll_kept (decoder : Decoder) (buffers : List Bytes) :
    decoder.decodeAll family (decoder.kept family buffers) =
      ((acceptedIn (decoder.decodeAll family buffers).1).map .ok,
        (decoder.decodeAll family buffers).2) := by
  induction buffers generalizing decoder with
  | nil => rfl
  | cons raw rest ih =>
    obtain ⟨event, onTime, said⟩ | ⟨failure, said⟩ := decode_cases family decoder raw
    · have keeps : decoder.kept family (raw :: rest) =
          raw :: kept family ⟨decoder.order, event.timestamp⟩ rest := by
        rw [kept, decodeAll_cons said]
        rfl
      rw [keeps, decodeAll_cons said, ih, decodeAll_cons said]
      rfl
    · have drops : decoder.kept family (raw :: rest) = decoder.kept family rest := by
        rw [kept, decodeAll_cons said]
        rfl
      rw [drops, ih, decodeAll_cons said]
      rfl

/-! ## The calls of a decoder -/

/-- What a decoder that goes on after every refusal says to some buffers:

- behind any number of them its state is the latest time of the events that it has accepted, or zero
  if there is none;
- it accepts an event exactly if its buffer is long enough and the event is not older than those
  accepted before it;
- it refuses any other event, with its time and the latest time accepted so far;
- a buffer that is too short fails with the two lengths;
- without the buffers that are refused or too short it accepts the same events and ends in the same
  state. -/
theorem decodeAll_runningMaxima (family : Family) (order : ByteOrder) (buffers : List Bytes) :
    let verdicts := ((start order).decodeAll family buffers).1
    let behind (count : Nat) := ((start order).decodeAll family (buffers.take count)).2
    let accepted (count : Nat) := acceptedIn (verdicts.take count)
    verdicts.length = buffers.length ∧
      (∀ count, (behind count).order = order ∧
        IsGreatest (insert 0 (times (accepted count))) (behind count).lastTimestamp) ∧
      (∀ place event, verdicts[place]? = some (.ok event) ↔
        ∃ raw, buffers[place]? = some raw ∧ family.recordSize ≤ raw.length ∧
          Event.decode family order raw = .ok event ∧
          ∀ earlier ∈ accepted place, earlier.timestamp ≤ event.timestamp) ∧
      (∀ place time last, verdicts[place]? = some (.error (.ordering time last)) ↔
        ∃ raw event, buffers[place]? = some raw ∧ Event.decode family order raw = .ok event ∧
          event.timestamp = time ∧ time < last ∧
          IsGreatest (insert 0 (times (accepted place))) last) ∧
      (∀ (place need got : Nat), verdicts[place]? = some (.error (.decode need got)) ↔
        ∃ raw, buffers[place]? = some raw ∧
          raw.length < family.recordSize ∧ need = family.recordSize ∧ got = raw.length) ∧
      (start order).decodeAll family ((start order).kept family buffers) =
        ((accepted buffers.length).map .ok, behind buffers.length) := by
  intro verdicts behind accepted
  have isOrder (count : Nat) : (behind count).order = order := order_decodeAll _ _
  have latest (count : Nat) :
      IsGreatest (insert 0 (times (accepted count))) (behind count).lastTimestamp := by
    have greatest : IsGreatest _ (behind count).lastTimestamp :=
      isGreatest_decodeAll (start order) (buffers.take count)
    rwa [decodeAll_take] at greatest
  have said (place : Nat) : verdicts[place]? =
      buffers[place]?.map fun raw => ((behind place).decode family raw).1 :=
    getElem?_decodeAll _ _ place
  refine ⟨length_decodeAll _ _, fun count => ⟨isOrder count, latest count⟩, ?_, ?_, ?_, ?_⟩
  · intro place event
    simp only [said, Option.map_eq_some_iff, accepts_iff, isOrder, latest_le_iff (latest place)]
    refine exists_congr fun raw => and_congr_right fun _ => ?_
    exact ⟨fun both => ⟨(Event.decode_eq_ok_iff.mp both.1).1, both⟩, And.right⟩
  · intro place time last
    simp only [said, Option.map_eq_some_iff, refuses_iff, isOrder,
      eq_iff_isGreatest (latest place), exists_and_left]
  · intro place need got
    simp only [said, Option.map_eq_some_iff, fails_iff]
  · rw [decodeAll_kept]
    simp [accepted, behind, verdicts, List.take_of_length_le, length_decodeAll]

end ProbeStream.Decoder
