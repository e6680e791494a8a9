import ProbeStream.Log
import ProbeStream.Perf.Record
import ProbeStream.System.Event

/-!
# Perf buffers

A perf buffer is a perf event array with one ring for each processor. A ring is an event with
memory mapped over it, one page of counters and then the data; its handle is stored in the array
under the number of its processor.

- Opening skips processors that are not there and stops at any other failure, and then gives up
  what it has opened. The length of a mapping is computed with a check for overflow, as in a build
  with overflow checks: a length that does not fit in a word ends the opening and the program.
- Draining reads the rings one after the other and sorts the samples by their time; samples of
  one time stay in the order in which they were read.
-/

namespace ProbeStream.Perf

variable {σ : Type}

/-- Why a ring or a buffer was not opened. -/
inductive OpenFault where
  /-- The system refused, or the number of pages is malformed. -/
  | failed (failure : IoError)
  /-- The length of a mapping does not fit in a word. No caller deals with that, and the program
  ends. -/
  | overflow
deriving DecidableEq, Repr

def OpenFault.message : OpenFault → String
  | .failed failure => failure.message
  | .overflow => "attempt to multiply with overflow"

/-! ## Rings -/

/-- Bytes that are mapped for a ring with so many pages of data, if they can be counted in a
word. -/
def mappedLength? (pageSize pages : UInt64) : Option UInt64 :=
  let length := (pages.toNat + 1) * pageSize.toNat
  if length < UInt64.size then some (.ofNat length) else none

/-- The ring of one processor. -/
structure Ring where
  cpu : UInt32
  event : OpenEvent
  /-- Bytes that are mapped. -/
  length : UInt64
  area : Area
deriving DecidableEq, Repr

namespace Ring

/-- Opens the event of a processor and maps its ring. An event that cannot be mapped is given
up. -/
def create (system : System σ) (cpu : UInt32) (pages : UInt64) :
    StateM (Machine σ) (Except OpenFault Ring) := do
  match ← Machine.openEvent system (Attributes.programOutput.toBytes .host) cpu with
  | .error code => return .error (.failed (.system code))
  | .ok handle =>
    let event : OpenEvent := ⟨handle, false⟩
    match mappedLength? system.pageSize pages with
    | none =>
      event.close system
      return .error .overflow
    | some length =>
      match ← Machine.mapEvent system length handle with
      | .error code =>
        event.close system
        return .error (.failed (.system code))
      | .ok area => return .ok ⟨cpu, event, length, area⟩

/-- Gives a ring up: first its memory, then its event. -/
def close (system : System σ) (ring : Ring) : StateM (Machine σ) Unit := do
  Machine.unmapEvent system ring.length ring.event.handle
  ring.event.close system

/-- Stores the handle of a ring in the array and lets its event fire. A ring for which that
fails is given up. -/
def publish (system : System σ) (map : Handle) (ring : Ring) :
    StateM (Machine σ) (Except Errno Ring) := do
  match ← Machine.updateMap system map ring.cpu ring.event.handle.number with
  | .error code =>
    ring.close system
    return .error code
  | .ok () =>
    match ← ring.event.enable system with
    | (.error code, _) =>
      ring.close system
      return .error code
    | (.ok (), event) => return .ok { ring with event }

/-- The records that were not read yet. -/
def records (ring : Ring) : List Record := Perf.records ring.area.unread

/-- The ring when everything in it is read. -/
def afterRead (ring : Ring) : Ring := { ring with area := ring.area.advance }

end Ring

/-! ## Opening -/

/-- The rings of one perf event array. -/
structure Buffer where
  name : String
  rings : List Ring
  /-- How many samples the kernel has dropped. -/
  lost : UInt64
deriving DecidableEq, Repr

namespace Buffer

/-- Gives rings up in order. -/
def closeRings (system : System σ) : List Ring → StateM (Machine σ) Unit
  | [] => pure ()
  | ring :: rest => do
    ring.close system
    closeRings system rest

/-- Opens and publishes a ring for each processor that is left. -/
def openRings (system : System σ) (name : String) (map : Handle) (pages : UInt64) :
    (cpus : List UInt32) → (opened : List Ring) →
      StateM (Machine σ) (Except OpenFault (List Ring) × Log)
  | [], opened => return (.ok opened, [])
  | cpu :: rest, opened => do
    match ← Ring.create system cpu pages with
    | .error fault =>
      if fault = .failed (.system .noDevice) then
        let (result, log) ← openRings system name map pages rest opened
        return (result, ⟨.debug, s!"{name}: cpu {cpu.toNat} is offline, skipping"⟩ :: log)
      else
        closeRings system opened
        return (.error fault, [])
    | .ok ring =>
      match ← ring.publish system map with
      | .error code =>
        closeRings system opened
        return (.error (.failed (.system code)), [])
      | .ok ring => openRings system name map pages rest (opened ++ [ring])

def isPowerOfTwo (number : UInt64) : Bool :=
  (List.range 64).any fun exponent => number.toNat == 1 <<< exponent

/-- Opens a ring of so many data pages on each processor and publishes it in the array. -/
def create (system : System σ) (name : String) (map : Handle) (cpus : List UInt32)
    (pages : UInt64) : StateM (Machine σ) (Except OpenFault Buffer × Log) := do
  if isPowerOfTwo pages then
    match ← openRings system name map pages cpus [] with
    | (.error fault, log) => return (.error fault, log)
    | (.ok rings, log) =>
      let summary : LogRecord :=
        ⟨.debug, s!"{name}: {rings.length} rings of {pages.toNat} pages"⟩
      return (.ok ⟨name, rings, 0⟩, log ++ [summary])
  else
    return (.error (.failed (.invalidInput
      s!"perf buffer pages must be a power of two, got {pages.toNat}")), [])

/-- Gives the buffer up. -/
def close (system : System σ) (buffer : Buffer) : StateM (Machine σ) Unit :=
  closeRings system buffer.rings

/-! ## Draining -/

def payload? : Record → Option Bytes
  | .sample payload => some payload
  | _ => none

/-- How many samples a record says were lost. -/
def lostCount : Record → UInt64
  | .lost count => count
  | _ => 0

/-- What is told of one record of a ring. -/
def recordNotice (name : String) (cpu : UInt32) : Record → Log
  | .sample _ => []
  | .lost count => [⟨.warn, s!"{name}: lost {count.toNat} events on cpu {cpu.toNat}"⟩]
  | .other type => [⟨.debug, s!"{name}: ignoring record type {type.toNat}"⟩]

/-- What is told of reading one ring. -/
def ringNotice (name : String) (ring : Ring) : Log :=
  droppedNotice ring.area.unread ++ ring.records.flatMap (recordNotice name ring.cpu)

/-- Whether one payload may stand in front of another. -/
def notLater (left right : Bytes) : Bool := leadingTimestamp left ≤ leadingTimestamp right

/-- The samples of all rings by time, the buffer without them, and what is told.

The number of lost samples is kept in a word and wraps around here. A build with overflow checks
ends the program instead, so the two agree as long as the sum fits in a word. -/
def drain (buffer : Buffer) : List Bytes × Buffer × Log :=
  let found := buffer.rings.flatMap Ring.records
  let batch := (found.filterMap payload?).mergeSort notLater
  let lost := found.foldl (fun total record => total + lostCount record) buffer.lost
  (batch, { buffer with rings := buffer.rings.map Ring.afterRead, lost },
    buffer.rings.flatMap (ringNotice buffer.name))

/-! ## Polling -/

/-- Bytes that the kernel writes into a ring. -/
structure Arrival where
  ring : Nat
  bytes : Bytes
deriving DecidableEq, Repr

/-- The buffer with another area in one of its rings. -/
def modifyArea (buffer : Buffer) (ring : Nat) (change : Area → Area) : Buffer :=
  let changed (ring : Ring) : Ring := { ring with area := change ring.area }
  { buffer with rings := buffer.rings.modify ring changed }

/-- The buffer when bytes have arrived. -/
def arrive (buffer : Buffer) (arrival : Arrival) : Buffer :=
  buffer.modifyArea arrival.ring (·.push arrival.bytes)

/-- Why a reader that waits for its rings wakes up. -/
inductive Wakeup where
  /-- It is told to stop. -/
  | shutdown
  /-- Something has arrived. -/
  | readable (arrivals : List Arrival)
deriving DecidableEq, Repr

/-- What a reader finds when it wakes up after bytes have arrived. -/
def wake (buffer : Buffer) (arrivals : List Arrival) : List Bytes × Buffer × Log :=
  (arrivals.foldl arrive buffer).drain

/-- Forwards the samples of each wake-up until the reader is told to stop. A reader whose samples
nobody takes stops at the first of them. -/
def poll (taken : Bool) : (wakeups : List Wakeup) → Buffer → List Bytes × Buffer × Log
  | [], buffer => ([], buffer, [])
  | .shutdown :: _, buffer => ([], buffer, [])
  | .readable arrivals :: rest, buffer =>
    let (batch, drained, log) := buffer.wake arrivals
    if taken ∨ batch = [] then
      let (later, buffer, laterLog) := poll taken rest drained
      (batch ++ later, buffer, log ++ laterLog)
    else ([], drained, log)

end Buffer

end ProbeStream.Perf
