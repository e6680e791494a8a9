import ProbeStream.Event.Record

/-!
# Events on the wire

A record holds the fields of an event one after the other: timestamp and processor in 8 bytes
each, type and process in 4, the command name in 16, the two addresses, the two ports in 2 each,
and the network namespace in 4. That makes 56 bytes with IPv4 addresses and 80 with IPv6
addresses. All words are in the byte order of the machine that wrote them. Bytes behind the
record are not looked at.
-/

namespace ProbeStream

namespace Family

def addressSize : Family → Nat
  | .v4 => 4
  | .v6 => 16

def recordSize (family : Family) : Nat := 48 + 2 * family.addressSize

end Family

namespace Address

def toBytes {family : Family} (order : ByteOrder) : Address family → Bytes
  | .v4 word => order.u32 word
  | .v6 high low => order.u64 high ++ order.u64 low

/-- The address whose words stand at `offset`. -/
def ofWords (family : Family) (order : ByteOrder) (bytes : Bytes) (offset : Nat) : Address family :=
  match family with
  | .v4 => .v4 (order.u32At bytes offset)
  | .v6 => .v6 (order.u64At bytes offset) (order.u64At bytes (offset + 8))

@[simp] theorem length_toBytes {family : Family} (order : ByteOrder) (address : Address family) :
    (address.toBytes order).length = family.addressSize := by
  cases address <;> simp [toBytes, Family.addressSize]

end Address

/-- Why a buffer gives no event, or gives one that must not be used. -/
inductive StreamError where
  /-- The buffer is too short for a record. -/
  | decode (need got : Nat)
  /-- The event is older than one that came before it. -/
  | ordering (timestamp last : UInt64)
deriving DecidableEq, Repr

namespace StreamError

def message : StreamError → String
  | .decode need got => s!"failed to decode received data: need {need} bytes, got {got}"
  | .ordering timestamp last =>
    s!"late event: timestamp {timestamp.toNat} is older than last seen {last.toNat}"

/-- Whether the stream cannot go on. A short buffer is only left out. -/
def isFatal : StreamError → Bool
  | .decode _ _ => false
  | .ordering _ _ => true

end StreamError

namespace Event

variable {family : Family}

def encode (order : ByteOrder) (event : Event family) : Bytes :=
  order.u64 event.timestamp ++ order.u64 event.cpu ++ order.u32 event.type ++
    order.u32 event.pid ++ event.command.bytes ++ event.source.toBytes order ++
    event.destination.toBytes order ++ order.u16 event.sourcePort ++
    order.u16 event.destinationPort ++ order.u32 event.netns

/-- The event in a buffer that is long enough. -/
def ofRecord (order : ByteOrder) (bytes : Bytes) (enough : family.recordSize ≤ bytes.length) :
    Event family :=
  let size := family.addressSize
  { timestamp := order.u64At bytes 0
    cpu := order.u64At bytes 8
    type := order.u32At bytes 16
    pid := order.u32At bytes 20
    command := ⟨bytes.slice 24 16, Bytes.length_slice <| by
      simp only [Family.recordSize] at enough
      omega⟩
    source := .ofWords family order bytes 40
    destination := .ofWords family order bytes (40 + size)
    sourcePort := order.u16At bytes (40 + 2 * size)
    destinationPort := order.u16At bytes (42 + 2 * size)
    netns := order.u32At bytes (44 + 2 * size) }

def decode (family : Family) (order : ByteOrder) (bytes : Bytes) :
    Except StreamError (Event family) :=
  if enough : family.recordSize ≤ bytes.length then .ok (ofRecord order bytes enough)
  else .error (.decode family.recordSize bytes.length)

@[simp] theorem length_encode (order : ByteOrder) (event : Event family) :
    (event.encode order).length = family.recordSize := by
  simp only [encode, List.length_append, ByteOrder.length_u64, ByteOrder.length_u32,
    ByteOrder.length_u16, Address.length_toBytes, event.command.length_bytes, Family.recordSize]
  omega

end Event

end ProbeStream
