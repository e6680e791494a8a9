import Mathlib.Order.Bounds.Defs
import ProbeStream.Event.Decoder

/-!
# The order of a stream

A decoder looks at one event after the other and refuses the first that is older than the one
before it. Here that is said of lists of events alone:

- `eventsIn` are the events that some buffers hold; a buffer that is too short holds none;
- `InOrder last events` says that time does not go back, from `last` on;
- `refusal?` is the complaint about the first event out of order, `accepted` are the events in
  front of it.

There is no complaint exactly about events in order (`refusal?_eq_none_iff`), and events in order
only move the time from which the next ones are judged (`refusal?_append`, `accepted_append`). A
decoder that goes on after complaints complains at all under the same condition
(`ordering_mem_decodeAll_iff`).
-/

namespace ProbeStream

variable {family : Family}

/-! ## Events in buffers -/

namespace Event

theorem decode_of_long {order : ByteOrder} {raw : Bytes}
    (enough : family.recordSize ≤ raw.length) :
    decode family order raw = .ok (ofRecord order raw enough) := by
  rw [decode, dif_pos enough]

theorem decode_of_short {order : ByteOrder} {raw : Bytes}
    (short : ¬ family.recordSize ≤ raw.length) :
    decode family order raw = .error (.decode family.recordSize raw.length) := by
  rw [decode, dif_neg short]

end Event

/-- The events in those of the buffers that are long enough for one. -/
def eventsIn (family : Family) (order : ByteOrder) (buffers : List Bytes) : List (Event family) :=
  buffers.filterMap fun raw => (Event.decode family order raw).toOption

@[simp] theorem eventsIn_nil (order : ByteOrder) : eventsIn family order [] = [] := rfl

theorem eventsIn_append (order : ByteOrder) (first rest : List Bytes) :
    eventsIn family order (first ++ rest) =
      eventsIn family order first ++ eventsIn family order rest :=
  List.filterMap_append

theorem eventsIn_cons_of_long {order : ByteOrder} {raw : Bytes}
    (enough : family.recordSize ≤ raw.length) (rest : List Bytes) :
    eventsIn family order (raw :: rest) =
      Event.ofRecord order raw enough :: eventsIn family order rest := by
  rw [eventsIn, List.filterMap_cons_some (by rw [Event.decode_of_long enough]; rfl), eventsIn]

theorem eventsIn_cons_of_short {order : ByteOrder} {raw : Bytes}
    (short : ¬ family.recordSize ≤ raw.length) (rest : List Bytes) :
    eventsIn family order (raw :: rest) = eventsIn family order rest := by
  rw [eventsIn, List.filterMap_cons_none (by rw [Event.decode_of_short short]; rfl), eventsIn]

theorem mem_eventsIn {order : ByteOrder} {buffers : List Bytes} {event : Event family} :
    event ∈ eventsIn family order buffers ↔
      ∃ raw ∈ buffers, ∃ enough : family.recordSize ≤ raw.length,
        Event.ofRecord order raw enough = event := by
  constructor
  · intro member
    obtain ⟨raw, present, decoded⟩ := List.mem_filterMap.mp member
    by_cases enough : family.recordSize ≤ raw.length
    · rw [Event.decode_of_long enough] at decoded
      exact ⟨raw, present, enough, Option.some.inj decoded⟩
    · rw [Event.decode_of_short enough] at decoded
      exact absurd decoded (by simp [Except.toOption])
  · rintro ⟨raw, present, enough, rfl⟩
    exact List.mem_filterMap.mpr ⟨raw, present, by rw [Event.decode_of_long enough]; rfl⟩

/-- The buffers that are long enough hold one event each. -/
theorem eventsIn_eq_map_filter (order : ByteOrder) (buffers : List Bytes) :
    (eventsIn family order buffers).map .ok =
      (buffers.filter fun raw => family.recordSize ≤ raw.length).map
        (Event.decode family order) := by
  induction buffers with
  | nil => rfl
  | cons raw rest ih =>
    by_cases enough : family.recordSize ≤ raw.length
    · rw [eventsIn_cons_of_long enough, List.filter_cons_of_pos (by simpa using enough),
        List.map_cons, List.map_cons, Event.decode_of_long enough, ih]
    · rw [eventsIn_cons_of_short enough, List.filter_cons_of_neg (by simpa using enough), ih]

/-- Buffers that are too short can be left out. -/
theorem eventsIn_filter (order : ByteOrder) (buffers : List Bytes) :
    eventsIn family order (buffers.filter fun raw => family.recordSize ≤ raw.length) =
      eventsIn family order buffers := by
  rw [eventsIn, List.filterMap_filter, eventsIn]
  refine congrArg (List.filterMap · buffers) (funext fun raw => ?_)
  by_cases enough : family.recordSize ≤ raw.length
  · rw [if_pos (by simpa using enough)]
  · rw [if_neg (by simpa using enough), Event.decode_of_short enough]
    rfl

/-! ## Order -/

/-- No event is older than `last` or than an event in front of it. -/
structure InOrder (last : UInt64) (events : List (Event family)) : Prop where
  after : ∀ event ∈ events, last ≤ event.timestamp
  ascending : events.Pairwise fun earlier later => earlier.timestamp ≤ later.timestamp

/-- The complaint about the first event that is older than the one before it. -/
def refusal? : (last : UInt64) → List (Event family) → Option StreamError
  | _, [] => none
  | last, event :: rest =>
    if event.timestamp < last then some (.ordering event.timestamp last)
    else refusal? event.timestamp rest

/-- The events in front of the first one that is older than the one before it. -/
def accepted : (last : UInt64) → List (Event family) → List (Event family)
  | _, [] => []
  | last, event :: rest =>
    if event.timestamp < last then [] else event :: accepted event.timestamp rest

/-- The time of the last event, or `last` if there is none. -/
def lastSeen (last : UInt64) (events : List (Event family)) : UInt64 :=
  events.foldl (fun _ event => event.timestamp) last

theorem InOrder.nil (last : UInt64) : InOrder last ([] : List (Event family)) :=
  ⟨by simp, .nil⟩

theorem inOrder_cons {last : UInt64} {event : Event family} {rest : List (Event family)} :
    InOrder last (event :: rest) ↔
      last ≤ event.timestamp ∧ InOrder event.timestamp rest := by
  constructor
  · rintro ⟨after, ascending⟩
    obtain ⟨least, others⟩ := List.pairwise_cons.mp ascending
    exact ⟨after event List.mem_cons_self, least, others⟩
  · rintro ⟨first, after, ascending⟩
    refine ⟨?_, List.pairwise_cons.mpr ⟨after, ascending⟩⟩
    intro other member
    rcases List.mem_cons.mp member with rfl | behind
    · exact first
    · exact UInt64.le_trans first (after other behind)

/-- There is no complaint exactly about events in order. -/
theorem refusal?_eq_none_iff {last : UInt64} {events : List (Event family)} :
    refusal? last events = none ↔ InOrder last events := by
  induction events generalizing last with
  | nil => exact ⟨fun _ => .nil last, fun _ => rfl⟩
  | cons event rest ih =>
    rw [refusal?, inOrder_cons]
    split
    · next late => simp [UInt64.not_le.mpr late]
    · next onTime =>
      rw [ih]
      exact ⟨fun behind => ⟨UInt64.not_lt.mp onTime, behind⟩, fun both => both.2⟩

/-- Events in order only move the time from which the next ones are judged. -/
theorem refusal?_append {last : UInt64} {first : List (Event family)} (inOrder : InOrder last first)
    (rest : List (Event family)) :
    refusal? last (first ++ rest) = refusal? (lastSeen last first) rest := by
  induction first generalizing last with
  | nil => rfl
  | cons event others ih =>
    obtain ⟨onTime, behind⟩ := inOrder_cons.mp inOrder
    rw [List.cons_append, refusal?, if_neg (UInt64.not_lt.mpr onTime), ih behind]
    rfl

theorem accepted_append {last : UInt64} {first : List (Event family)} (inOrder : InOrder last first)
    (rest : List (Event family)) :
    accepted last (first ++ rest) = first ++ accepted (lastSeen last first) rest := by
  induction first generalizing last with
  | nil => rfl
  | cons event others ih =>
    obtain ⟨onTime, behind⟩ := inOrder_cons.mp inOrder
    rw [List.cons_append, accepted, if_neg (UInt64.not_lt.mpr onTime), ih behind]
    rfl

/-- An event that is older than the last one before it is complained about, and nothing from it on
is accepted. -/
theorem refusal?_of_late {last : UInt64} {first : List (Event family)}
    (inOrder : InOrder last first) {event : Event family}
    (late : event.timestamp < lastSeen last first) (rest : List (Event family)) :
    refusal? last (first ++ event :: rest) =
        some (.ordering event.timestamp (lastSeen last first)) ∧
      accepted last (first ++ event :: rest) = first := by
  constructor
  · rw [refusal?_append inOrder, refusal?, if_pos late]
  · rw [accepted_append inOrder, accepted, if_pos late, List.append_nil]

/-- Every complaint is about the order. -/
theorem eq_ordering_of_refusal? {last : UInt64} {events : List (Event family)}
    {failure : StreamError} (refused : refusal? last events = some failure) :
    ∃ time previous, failure = .ordering time previous := by
  induction events generalizing last with
  | nil => cases refused
  | cons event rest ih =>
    rw [refusal?] at refused
    split at refused
    · cases refused
      exact ⟨_, _, rfl⟩
    · exact ih refused

/-! ## The earliest and the latest time -/

def times (events : List (Event family)) : Set UInt64 :=
  {time | ∃ event ∈ events, event.timestamp = time}

theorem isLeast_times_cons {event : Event family} {rest : List (Event family)}
    (ascending : (event :: rest).Pairwise fun earlier later =>
      earlier.timestamp ≤ later.timestamp) :
    IsLeast (times (event :: rest)) event.timestamp := by
  refine ⟨⟨event, List.mem_cons_self, rfl⟩, ?_⟩
  rintro time ⟨other, member, rfl⟩
  rcases List.mem_cons.mp member with rfl | behind
  · exact UInt64.le_refl other.timestamp
  · exact (List.pairwise_cons.mp ascending).1 other behind

theorem InOrder.le_lastSeen {last : UInt64} {events : List (Event family)}
    (inOrder : InOrder last events) : ∀ event ∈ events, event.timestamp ≤ lastSeen last events := by
  induction events generalizing last with
  | nil => simp
  | cons first rest ih =>
    obtain ⟨_, behind⟩ := inOrder_cons.mp inOrder
    intro event member
    rcases List.mem_cons.mp member with rfl | later
    · cases rest with
      | nil => exact UInt64.le_refl event.timestamp
      | cons second others =>
        exact UInt64.le_trans (inOrder_cons.mp behind).1 (ih behind second List.mem_cons_self)
    · exact ih behind event later

theorem lastSeen_mem (last : UInt64) {events : List (Event family)} (some : events ≠ []) :
    ∃ event ∈ events, event.timestamp = lastSeen last events := by
  -- the last event of a list of one is its first; a longer list has the last one of its rest
  induction events generalizing last with
  | nil => exact absurd rfl some
  | cons first rest ih =>
    cases rest with
    | nil => exact ⟨first, List.mem_cons_self, rfl⟩
    | cons second others =>
      obtain ⟨event, member, time⟩ := ih first.timestamp (List.cons_ne_nil second others)
      exact ⟨event, List.mem_cons_of_mem first member, time⟩

theorem InOrder.isGreatest_lastSeen {last : UInt64} {events : List (Event family)}
    (inOrder : InOrder last events) (some : events ≠ []) :
    IsGreatest (times events) (lastSeen last events) := by
  refine ⟨lastSeen_mem last some, ?_⟩
  rintro time ⟨event, member, rfl⟩
  exact inOrder.le_lastSeen event member

/-! ## Decoding one buffer after the other -/

namespace Decoder

section Decode

variable {decoder : Decoder} {raw : Bytes} {event : Event family}

theorem decode_of_error {failure : StreamError}
    (read : Event.decode family decoder.order raw = .error failure) :
    decoder.decode family raw = (.error failure, decoder) := by
  rw [decode, read]

theorem decode_of_late (read : Event.decode family decoder.order raw = .ok event)
    (late : event.timestamp < decoder.lastTimestamp) :
    decoder.decode family raw =
      (.error (.ordering event.timestamp decoder.lastTimestamp), decoder) := by
  rw [decode, read]
  exact if_pos late

theorem decode_of_onTime (read : Event.decode family decoder.order raw = .ok event)
    (onTime : ¬ event.timestamp < decoder.lastTimestamp) :
    decoder.decode family raw = (.ok event, { decoder with lastTimestamp := event.timestamp }) := by
  rw [decode, read]
  exact if_neg onTime

end Decode

/-- What a decoder says to each of some buffers, and the decoder behind them. -/
def decodeAll (family : Family) :
    Decoder → List Bytes → List (Except StreamError (Event family)) × Decoder
  | decoder, [] => ([], decoder)
  | decoder, raw :: rest =>
    let (verdict, next) := decoder.decode family raw
    let (verdicts, last) := decodeAll family next rest
    (verdict :: verdicts, last)

theorem decodeAll_append (decoder : Decoder) (first rest : List Bytes) :
    decoder.decodeAll family (first ++ rest) =
      ((decoder.decodeAll family first).1 ++
          ((decoder.decodeAll family first).2.decodeAll family rest).1,
        ((decoder.decodeAll family first).2.decodeAll family rest).2) := by
  induction first generalizing decoder with
  | nil => rfl
  | cons raw others ih => simp only [List.cons_append, decodeAll, ih]

/-- Some buffer is refused for its time exactly if the events of all buffers are not in order. -/
theorem ordering_mem_decodeAll_iff (decoder : Decoder) (buffers : List Bytes) :
    (∃ time last, .error (.ordering time last) ∈ (decoder.decodeAll family buffers).1) ↔
      ¬ InOrder decoder.lastTimestamp (eventsIn family decoder.order buffers) := by
  induction buffers generalizing decoder with
  | nil => simp [decodeAll, InOrder.nil]
  | cons raw rest ih =>
    by_cases enough : family.recordSize ≤ raw.length
    · let event := Event.ofRecord decoder.order raw enough
      have read : Event.decode family decoder.order raw = .ok event := Event.decode_of_long enough
      rw [eventsIn_cons_of_long enough, inOrder_cons, decodeAll]
      by_cases late : event.timestamp < decoder.lastTimestamp
      · rw [decode_of_late read late]
        refine ⟨fun _ onTime => UInt64.not_le.mpr late onTime.1, fun _ => ?_⟩
        exact ⟨_, _, List.mem_cons_self⟩
      · -- the next buffer is judged from the time of this event
        have goesOn := ih { decoder with lastTimestamp := event.timestamp }
        rw [decode_of_onTime read late]
        simp only [List.mem_cons, reduceCtorEq, false_or]
        rw [goesOn]
        exact not_congr (by simp [UInt64.not_lt.mp late, event])
    · rw [eventsIn_cons_of_short enough, ← ih decoder, decodeAll,
        decode_of_error (Event.decode_of_short enough)]
      simp

end Decoder

end ProbeStream
