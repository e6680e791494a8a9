import ProbeStream.Log
import ProbeStream.Perf.Attributes

/-!
# Records in a ring

The kernel writes records one after the other. Each is a *frame*: it begins with a header of
eight bytes, whose last two give the size of the whole frame. A run of bytes is cut into frames
from the front; where the size is below eight or reaches beyond the bytes, the cutting ends and
what is left is dropped.

A frame holds a sample, a count of lost samples, or something else. The sizes that stand inside
a frame never reach beyond it.
-/

namespace ProbeStream.Perf

/-- What a frame holds. -/
inductive Record where
  /-- The bytes that a program wrote. -/
  | sample (payload : Bytes)
  /-- The kernel dropped this many samples because the ring was full. -/
  | lost (count : UInt64)
  /-- Something else, by its type. -/
  | other (type : UInt32)
deriving DecidableEq, Repr

def frameHeaderSize : Nat := 8

/-- The type of frames that count lost samples. -/
def typeLost : UInt32 := 2

/-- The type of frames that hold a sample. -/
def typeSample : UInt32 := 9

/-- Where the payload of a sample begins. -/
def payloadOffset : Nat := 12

/-- Bytes in a frame that counts lost samples. -/
def lostFrameSize : Nat := 24

/-- The size that the header of a frame gives. -/
def frameSize (bytes : Bytes) : Nat := (ByteOrder.host.u16At bytes 6).toNat

/-- What a frame holds. A frame that is too short for its type is something else. -/
def Record.ofFrame (frame : Bytes) : Record :=
  let type := ByteOrder.host.u32At frame 0
  if type = typeSample ∧ payloadOffset ≤ frame.length then
    .sample ((frame.drop payloadOffset).take (ByteOrder.host.u32At frame 8).toNat)
  else if type = typeLost ∧ lostFrameSize ≤ frame.length then
    .lost (ByteOrder.host.u64At frame 16)
  else .other type

/-- Whether some bytes begin with a whole frame. -/
def hasFrame (bytes : Bytes) : Prop :=
  frameHeaderSize ≤ bytes.length ∧ frameHeaderSize ≤ frameSize bytes ∧
    frameSize bytes ≤ bytes.length

instance (bytes : Bytes) : Decidable (hasFrame bytes) :=
  inferInstanceAs (Decidable (_ ∧ _ ∧ _))

/-- The frames at the front of some bytes. -/
def frames (bytes : Bytes) : List Bytes :=
  if _whole : hasFrame bytes then
    bytes.take (frameSize bytes) :: frames (bytes.drop (frameSize bytes))
  else []
termination_by bytes.length
decreasing_by
  obtain ⟨_, least, most⟩ := _whole
  simp only [frameHeaderSize, List.length_drop] at *
  omega

/-- The bytes behind the frames. -/
def afterFrames (bytes : Bytes) : Bytes := bytes.drop (frames bytes).flatten.length

/-- The records at the front of some bytes. -/
def records (bytes : Bytes) : List Record := (frames bytes).map Record.ofFrame

/-- What is told of bytes behind the frames that hold a whole header. -/
def droppedNotice (bytes : Bytes) : Log :=
  let rest := afterFrames bytes
  if frameHeaderSize ≤ rest.length then
    [⟨.warn,
      s!"malformed perf record of {frameSize rest} bytes, dropping the rest of the batch"⟩]
  else []

/-- The first eight bytes of a payload as a number, which the probes fill with the time of the
event. A shorter payload counts as time zero. -/
def leadingTimestamp (payload : Bytes) : UInt64 :=
  if 8 ≤ payload.length then ByteOrder.host.u64At payload 0 else 0

end ProbeStream.Perf
