import ProbeStream.Proofs.Event.Wire

/-!
# Octets of addresses on the wire

An address in a record is one word of four bytes or two of eight. A word is read in the order of the
machine that wrote the record, like every other field, and then taken apart with the lowest byte
first, whatever that order is: the word `0x0100007f` is `127.0.0.1` on every machine. So the octets
that come out are the bytes of the record with each word put into little-endian order
(`Address.octets_ofWords`):

- in a little-endian record they are the bytes as they stand;
- in a big-endian record the bytes of each word come out in reverse, which makes no difference only
  if every word is its own reverse (`decode_octets`, `decode_octets_turned`).
-/

namespace ProbeStream

/-! ## Words of addresses -/

namespace Family

/-- The size of the words in which an address is stored. -/
def wordSize : Family → Nat
  | .v4 => 4
  | .v6 => 8

/-- How many words an address has. -/
def wordCount : Family → Nat
  | .v4 => 1
  | .v6 => 2

theorem addressSize_eq (family : Family) :
    family.addressSize = family.wordCount * family.wordSize := by
  cases family <;> rfl

/-- The words of an address. -/
def words (family : Family) (address : Bytes) : List Bytes :=
  address.pieces family.wordSize family.wordCount

theorem words_v4 (bytes : Bytes) (offset : Nat) :
    Family.v4.words (bytes.slice offset 4) = [bytes.slice offset 4] := by
  simp [words, wordSize, wordCount, Bytes.pieces, Bytes.slice, List.take_take]

theorem words_v6 (bytes : Bytes) (offset : Nat) :
    Family.v6.words (bytes.slice offset 16) =
      [bytes.slice offset 8, bytes.slice (offset + 8) 8] := by
  simp [words, wordSize, wordCount, Bytes.pieces, Bytes.slice, List.take_take, List.drop_take]

/-- Whether each word of an address is the same in both byte orders. -/
def ReadsBothWays (family : Family) (address : Bytes) : Prop :=
  ∀ word ∈ family.words address, word.reverse = word

end Family

namespace ByteOrder

variable {order : ByteOrder}

theorem encode_little (order : ByteOrder) (width n : Nat) :
    ByteOrder.little.encode width n = order.arrange (order.encode width n) := by
  rw [encode, encode, arrange_arrange]
  rfl

/-- A list of words is not changed by arranging each of them exactly if no word is. -/
theorem flatMap_arrange_eq_iff {words : List Bytes} :
    words.flatMap order.arrange = words.flatten ↔ ∀ word ∈ words, order.arrange word = word := by
  induction words with
  | nil => simp
  | cons word others ih =>
    rw [List.flatMap_cons, List.flatten_cons, List.forall_mem_cons, ← ih]
    constructor
    · intro same
      exact List.append_inj same (length_arrange order word)
    · rintro ⟨first, rest⟩
      rw [first, rest]

/-- The octets that are read from an address in this order. -/
def octetsOf (order : ByteOrder) (family : Family) (address : Bytes) : Bytes :=
  (family.words address).flatMap order.arrange

theorem octetsOf_eq_self_iff {family : Family} {address : Bytes}
    (length : address.length = family.addressSize) :
    order.octetsOf family address = address ↔
      order = .little ∨ family.ReadsBothWays address := by
  have whole : (family.words address).flatten = address :=
    Bytes.flatten_pieces (length.trans family.addressSize_eq)
  calc order.octetsOf family address = address
      ↔ (family.words address).flatMap order.arrange = (family.words address).flatten := by
        rw [octetsOf, whole]
    _ ↔ ∀ word ∈ family.words address, order.arrange word = word := flatMap_arrange_eq_iff
    _ ↔ order = .little ∨ family.ReadsBothWays address := by
      cases order <;> simp [arrange, Family.ReadsBothWays]

end ByteOrder

namespace Address

variable {family : Family} {order : ByteOrder} {bytes : Bytes} {offset : Nat}

/-- The octets that are read from a record, whatever order its words are in. -/
theorem octets_ofWords (fits : offset + family.addressSize ≤ bytes.length) :
    (ofWords family order bytes offset).octets =
      order.octetsOf family (bytes.slice offset family.addressSize) := by
  cases family with
  | v4 =>
    calc (ofWords .v4 order bytes offset).octets
        = ByteOrder.little.u32 (order.u32At bytes offset) := rfl
      _ = order.arrange (bytes.slice offset 4) := by
        rw [ByteOrder.u32, ByteOrder.encode_little order, ← ByteOrder.u32,
          ByteOrder.u32_u32At fits]
      _ = order.octetsOf .v4 (bytes.slice offset 4) := by
        rw [ByteOrder.octetsOf, Family.words_v4]
        exact (List.append_nil _).symm
  | v6 =>
    have fits : offset + 16 ≤ bytes.length := fits
    calc (ofWords .v6 order bytes offset).octets
        = ByteOrder.little.u64 (order.u64At bytes offset) ++
            ByteOrder.little.u64 (order.u64At bytes (offset + 8)) := rfl
      _ = order.arrange (bytes.slice offset 8) ++ order.arrange (bytes.slice (offset + 8) 8) := by
        rw [ByteOrder.u64, ByteOrder.u64, ByteOrder.encode_little order,
          ByteOrder.encode_little order, ← ByteOrder.u64, ← ByteOrder.u64,
          ByteOrder.u64_u64At (by omega), ByteOrder.u64_u64At (by omega)]
      _ = order.octetsOf .v6 (bytes.slice offset 16) := by
        rw [ByteOrder.octetsOf, Family.words_v6]
        exact congrArg _ (List.append_nil _).symm

end Address

/-! ## Events -/

namespace Event

variable {family : Family} {order : ByteOrder} {bytes : Bytes}

/-- The fields other than the addresses stand in the buffer, the numbers in this order. -/
structure StandsIn (order : ByteOrder) (bytes : Bytes) (event : Event family) : Prop where
  timestamp : order.u64 event.timestamp = bytes.slice 0 8
  cpu : order.u64 event.cpu = bytes.slice 8 8
  type : order.u32 event.type = bytes.slice 16 4
  pid : order.u32 event.pid = bytes.slice 20 4
  command : event.command.bytes = bytes.slice 24 16
  sourcePort : order.u16 event.sourcePort = bytes.slice (40 + 2 * family.addressSize) 2
  destinationPort : order.u16 event.destinationPort = bytes.slice (42 + 2 * family.addressSize) 2
  netns : order.u32 event.netns = bytes.slice (44 + 2 * family.addressSize) 4

/-- The addresses have the octets that stand in the buffer, in the same order. -/
structure KeepsOctets (bytes : Bytes) (event : Event family) : Prop where
  source : event.source.octets = bytes.slice 40 family.addressSize
  destination :
    event.destination.octets = bytes.slice (40 + family.addressSize) family.addressSize

theorem standsIn_ofRecord (enough : family.recordSize ≤ bytes.length) :
    (ofRecord order bytes enough).StandsIn order bytes := by
  have fits : 48 + 2 * family.addressSize ≤ bytes.length := enough
  exact
    { timestamp := ByteOrder.u64_u64At (by omega)
      cpu := ByteOrder.u64_u64At (by omega)
      type := ByteOrder.u32_u32At (by omega)
      pid := ByteOrder.u32_u32At (by omega)
      command := rfl
      sourcePort := ByteOrder.u16_u16At (by omega)
      destinationPort := ByteOrder.u16_u16At (by omega)
      netns := ByteOrder.u32_u32At (by omega) }

/-- What is read from a buffer that is long enough. The numbers are read in the order of the machine
that wrote them. The octets of the addresses are kept as they stand in the buffer exactly if that
order is little endian, or the words of both addresses read the same both ways. -/
theorem decode_octets (order : ByteOrder) (enough : family.recordSize ≤ bytes.length) :
    ∃ event, decode family order bytes = .ok event ∧ event.StandsIn order bytes ∧
      event.source.octets = order.octetsOf family (bytes.slice 40 family.addressSize) ∧
      event.destination.octets =
        order.octetsOf family (bytes.slice (40 + family.addressSize) family.addressSize) ∧
      (event.KeepsOctets bytes ↔
        order = .little ∨
          family.ReadsBothWays (bytes.slice 40 family.addressSize) ∧
          family.ReadsBothWays (bytes.slice (40 + family.addressSize) family.addressSize)) := by
  have fits : 48 + 2 * family.addressSize ≤ bytes.length := enough
  have source : (ofRecord order bytes enough).source.octets =
      order.octetsOf family (bytes.slice 40 family.addressSize) :=
    Address.octets_ofWords (by omega)
  have destination : (ofRecord order bytes enough).destination.octets =
      order.octetsOf family (bytes.slice (40 + family.addressSize) family.addressSize) :=
    Address.octets_ofWords (by omega)
  refine ⟨ofRecord order bytes enough, dif_pos enough, standsIn_ofRecord enough, source,
    destination, ?_⟩
  calc (ofRecord order bytes enough).KeepsOctets bytes
      ↔ order.octetsOf family (bytes.slice 40 family.addressSize) =
            bytes.slice 40 family.addressSize ∧
          order.octetsOf family (bytes.slice (40 + family.addressSize) family.addressSize) =
            bytes.slice (40 + family.addressSize) family.addressSize := by
        rw [← source, ← destination]
        exact ⟨fun keeps => ⟨keeps.source, keeps.destination⟩, fun keeps => ⟨keeps.1, keeps.2⟩⟩
    _ ↔ _ := by
      rw [ByteOrder.octetsOf_eq_self_iff (Bytes.length_slice (by omega)),
        ByteOrder.octetsOf_eq_self_iff (Bytes.length_slice (by omega)), ← or_and_left]

/-- A big-endian record in which the octets of `::1` and `::2` stand as they do in a packet. -/
def localRecord : Bytes :=
  [0, 0, 0, 0, 0, 0, 0, 100, 0, 0, 0, 0, 0, 0, 0, 0, 0, 0, 0, 1, 0, 0, 0, 42,
    99, 117, 114, 108, 0, 0, 0, 0, 0, 0, 0, 0, 0, 0, 0, 0,
    0, 0, 0, 0, 0, 0, 0, 0, 0, 0, 0, 0, 0, 0, 0, 1, 0, 0, 0, 0, 0, 0, 0, 0, 0, 0, 0, 0, 0, 0, 0, 2,
    1, 187, 199, 56, 0, 0, 0, 1]

/-- The low half of the source is the number 1, and its lowest byte comes first: the source is
`::100:0:0:0`. -/
theorem decode_octets_localRecord :
    Family.recordSize .v6 ≤ localRecord.length ∧
      ∃ event : Event .v6, decode .v6 .big localRecord = .ok event ∧
        event.StandsIn .big localRecord ∧
        event.source.octets = [0, 0, 0, 0, 0, 0, 0, 0, 1, 0, 0, 0, 0, 0, 0, 0] := by
  have enough : Family.recordSize .v6 ≤ localRecord.length := by decide
  obtain ⟨event, decoded, stands, source, -⟩ := decode_octets .big enough
  exact ⟨enough, event, decoded, stands, source.trans (by decide)⟩

/-- A big-endian record in which the octets of `127.0.0.1` and `127.0.0.2` stand as they do in a
packet. -/
def loopbackRecord : Bytes :=
  [0, 0, 0, 0, 0, 0, 0, 100, 0, 0, 0, 0, 0, 0, 0, 0, 0, 0, 0, 1, 0, 0, 0, 42,
    99, 117, 114, 108, 0, 0, 0, 0, 0, 0, 0, 0, 0, 0, 0, 0,
    127, 0, 0, 1, 127, 0, 0, 2, 1, 187, 199, 56, 0, 0, 0, 1]

/-- The word of the source is `0x7f000001`, and its lowest byte comes first: the octets of the
source are not the bytes of the record in their order. -/
theorem decode_octets_turned :
    ∃ enough : Family.recordSize .v4 ≤ loopbackRecord.length,
      loopbackRecord.slice 40 4 = [127, 0, 0, 1] ∧
      decode .v4 .big loopbackRecord = .ok (ofRecord .big loopbackRecord enough) ∧
      (ofRecord .big loopbackRecord enough).source.octets = [1, 0, 0, 127] ∧
      (ofRecord .big loopbackRecord enough).sourceText = "1.0.0.127:443" ∧
      ¬ (ofRecord .big loopbackRecord enough).KeepsOctets loopbackRecord :=
  ⟨by decide, by decide, rfl, by decide, by decide +kernel,
    fun keeps => absurd keeps.source (by decide)⟩

end Event

end ProbeStream
