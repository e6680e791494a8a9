import ProbeStream.Bytes

/-!
# Ring areas

A ring area is a stretch of memory that the kernel fills and the reader empties. Two counters run
through it and wrap around at 2^64: the kernel has written up to the *head*, the reader has read
up to the *tail*. A counter's place in the data is the counter modulo the size of the data, which
is a power of two.
-/

namespace ProbeStream.Perf

/-- The bytes from `tail` to `head`, at most as many as the data holds. They are copied in two
pieces if they reach beyond the end of the data. -/
def copyRing (data : Bytes) (tail head : UInt64) : Bytes :=
  let mask := UInt64.ofNat data.length - 1
  let length := min (head - tail).toNat data.length
  let start := (tail &&& mask).toNat
  let first := min length (data.length - start)
  data.slice start first ++ data.take (length - first)

/-- The memory that a kernel and a reader share. -/
structure Area where
  data : Bytes
  head : UInt64
  tail : UInt64
deriving DecidableEq, Repr

namespace Area

/-- An area of zeros whose counters both stand at `start`. -/
def fresh (size : Nat) (start : UInt64) : Area := ⟨List.replicate size 0, start, start⟩

/-! ## The kernel's side -/

/-- Writes one byte at the head. -/
def pushByte (area : Area) (byte : UInt8) : Area :=
  { area with
    data := area.data.set (area.head.toNat % area.data.length) byte
    head := area.head + 1 }

/-- Writes bytes at the head. -/
def push (area : Area) (bytes : Bytes) : Area := bytes.foldl pushByte area

def setHead (area : Area) (head : UInt64) : Area := { area with head }

/-! ## The reader's side -/

/-- The bytes that were written and not read. -/
def unread (area : Area) : Bytes :=
  if area.head = area.tail then [] else copyRing area.data area.tail area.head

/-- Everything up to the head is now read. -/
def advance (area : Area) : Area := { area with tail := area.head }

end Area

end ProbeStream.Perf
