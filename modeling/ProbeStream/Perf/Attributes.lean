import ProbeStream.Bytes

/-!
# Attributes of perf events

An event is described by a structure of 120 bytes. Only the fields that are used here have names;
every other byte is zero. The words are in the byte order of the machine.
-/

namespace ProbeStream

/-- The byte order of the machines that this runs on. -/
def ByteOrder.host : ByteOrder := .little

namespace Perf

/-- The switches of an event, one bit each. -/
structure EventFlags where
  bits : UInt64
deriving DecidableEq, Repr

namespace EventFlags

/-- The place of the switch that keeps a new event from firing. -/
def disabled : UInt64 := 0

/-- The place of the switch that follows child processes. -/
def inherit : UInt64 := 1

/-- The place of the switch that counts bytes and not events for wake-ups. -/
def watermark : UInt64 := 14

/-- One switch as a number. -/
def get (flags : EventFlags) (place : UInt64) : UInt64 := (flags.bits >>> place) &&& 1

/-- Sets one switch to the lowest bit of a number. -/
def set (flags : EventFlags) (place value : UInt64) : EventFlags :=
  ⟨(flags.bits &&& ~~~((1 : UInt64) <<< place)) ||| ((value &&& 1) <<< place)⟩

end EventFlags

/-- What an event is and how it samples. -/
structure Attributes where
  type : UInt32
  config : UInt64
  samplePeriod : UInt64
  sampleType : UInt64
  flags : EventFlags
  wakeupEvents : UInt32
deriving DecidableEq, Repr

namespace Attributes

/-- Bytes in the structure. -/
def size : Nat := 120

/-- Samples carry the raw bytes that the program gave. -/
def rawSamples : UInt64 := 1024

/-- An event of the tracing directory, by its number. Each occurrence is a sample and wakes the
reader. -/
def tracepoint (id : UInt64) : Attributes where
  type := 2
  config := id
  samplePeriod := 1
  sampleType := rawSamples
  flags := ⟨0⟩
  wakeupEvents := 1

/-- The event behind one slot of a perf event array, to which programs write. -/
def programOutput : Attributes where
  type := 1
  config := 10
  samplePeriod := 1
  sampleType := rawSamples
  flags := ⟨0⟩
  wakeupEvents := 1

/-- The structure in memory. -/
def toBytes (order : ByteOrder) (attributes : Attributes) : Bytes :=
  order.u32 attributes.type ++ order.u32 (UInt32.ofNat size) ++ order.u64 attributes.config ++
    order.u64 attributes.samplePeriod ++ order.u64 attributes.sampleType ++ order.u64 0 ++
    order.u64 attributes.flags.bits ++ order.u32 attributes.wakeupEvents ++ List.replicate 68 0

theorem length_toBytes (order : ByteOrder) (attributes : Attributes) :
    (attributes.toBytes order).length = size := by
  simp [toBytes, size]

end Attributes

end Perf

end ProbeStream
