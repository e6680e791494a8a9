import ProbeStream.Event.Wire
import ProbeStream.Proofs.Words

/-!
# Records and events

A record and its event say the same: an event is read as it was written, whatever stands behind the
record (`decode_encode_append`), and the event of a buffer is written as the record in front of the
buffer (`encode_ofRecord`). So the events of one family are exactly the byte strings of the size of
its records, in either byte order (`record_roundTrip`).
-/

namespace ProbeStream

open Bytes (HasAt)

variable {family : Family} {order : ByteOrder} {bytes : Bytes} {offset : Nat}

/-! ## Addresses -/

namespace Address

theorem ofWords_of_hasAt {address : Address family}
    (has : HasAt bytes offset (address.toBytes order)) :
    ofWords family order bytes offset = address := by
  cases address with
  | v4 word => exact congrArg v4 (has.u32At.trans UInt32.ofNat_toNat)
  | v6 high low =>
    have lower := has.append_right (order.length_u64 high)
    exact congrArg₂ v6 (has.append_left.u64At.trans UInt64.ofNat_toNat)
      (lower.u64At.trans UInt64.ofNat_toNat)

theorem toBytes_ofWords (fits : offset + family.addressSize ≤ bytes.length) :
    (ofWords family order bytes offset).toBytes order =
      bytes.slice offset family.addressSize := by
  cases family with
  | v4 => exact ByteOrder.u32_u32At fits
  | v6 =>
    have fits : offset + 16 ≤ bytes.length := fits
    rw [ofWords, toBytes, ByteOrder.u64_u64At (by omega), ByteOrder.u64_u64At (by omega),
      Bytes.slice_append_slice bytes rfl]
    rfl

end Address

/-! ## Events -/

namespace Event

/-- An event is read as it was written, whatever stands behind it. -/
theorem decode_encode_append (order : ByteOrder) (event : Event family) (rest : Bytes) :
    decode family order (event.encode order ++ rest) = .ok event := by
  have enough : family.recordSize ≤ (event.encode order ++ rest).length := by
    rw [List.length_append, length_encode]
    exact Nat.le_add_right _ _
  have timestamp := (HasAt.whole (event.encode order ++ rest)).append_left
  rw [decode, dif_pos enough]
  generalize event.encode order ++ rest = bytes at enough timestamp
  simp only [encode, List.append_assoc] at timestamp
  have cpu := timestamp.append_right (order.length_u64 _)
  have type := cpu.append_right (order.length_u64 _)
  have pid := type.append_right (order.length_u32 _)
  have command := pid.append_right (order.length_u32 _)
  have source := command.append_right event.command.length_bytes
  have destination := source.append_right (Address.length_toBytes order _)
  have sourcePort := destination.append_right (Address.length_toBytes order _)
  have destinationPort := sourcePort.append_right (order.length_u16 _)
  have netns := destinationPort.append_right (order.length_u16 _)
  have name : bytes.slice 24 16 = event.command.bytes := by
    have stretch := command.append_left.slice_eq
    rwa [event.command.length_bytes] at stretch
  refine congrArg Except.ok ?_
  rw [ofRecord]
  congr 1
  · exact timestamp.append_left.u64At.trans UInt64.ofNat_toNat
  · exact cpu.append_left.u64At.trans UInt64.ofNat_toNat
  · exact type.append_left.u32At.trans UInt32.ofNat_toNat
  · exact pid.append_left.u32At.trans UInt32.ofNat_toNat
  · exact CommandName.mk.injEq .. ▸ name
  · exact Address.ofWords_of_hasAt source.append_left
  · exact Address.ofWords_of_hasAt destination.append_left
  -- behind the addresses an offset is a number only once the family is known
  · cases family <;> exact sourcePort.append_left.u16At.trans UInt16.ofNat_toNat
  · cases family <;> exact destinationPort.append_left.u16At.trans UInt16.ofNat_toNat
  · cases family <;> exact netns.u32At.trans UInt32.ofNat_toNat

/-- The event of a buffer is written as the record in front. -/
theorem encode_ofRecord (enough : family.recordSize ≤ bytes.length) :
    (ofRecord order bytes enough).encode order = bytes.take family.recordSize := by
  have size : family.recordSize = 48 + 2 * family.addressSize := rfl
  have front : bytes.take family.recordSize = bytes.slice 0 family.recordSize := rfl
  rw [front]
  rw [size] at enough
  simp only [encode, ofRecord]
  rw [ByteOrder.u64_u64At (by omega), ByteOrder.u64_u64At (by omega),
    ByteOrder.u32_u32At (by omega), ByteOrder.u32_u32At (by omega),
    Address.toBytes_ofWords (by omega), Address.toBytes_ofWords (by omega),
    ByteOrder.u16_u16At (by omega), ByteOrder.u16_u16At (by omega),
    ByteOrder.u32_u32At (by omega)]
  simp (disch := omega) only [Bytes.slice_append_slice]
  congr 1
  omega

theorem decode_eq_error_iff {failure : StreamError} :
    decode family order bytes = .error failure ↔
      bytes.length < family.recordSize ∧ failure = .decode family.recordSize bytes.length := by
  rw [decode]
  split
  next enough => exact ⟨nofun, fun short => absurd short.1 (by omega)⟩
  next short =>
    refine ⟨fun same => ⟨by omega, (Except.error.inj same).symm⟩, ?_⟩
    rintro ⟨-, rfl⟩
    rfl

theorem decode_eq_ok_iff {event : Event family} :
    decode family order bytes = .ok event ↔
      family.recordSize ≤ bytes.length ∧ event.encode order = bytes.take family.recordSize := by
  constructor
  · intro decoded
    rw [decode] at decoded
    split at decoded
    next enough =>
      obtain rfl := Except.ok.inj decoded
      exact ⟨enough, encode_ofRecord enough⟩
    next => exact nomatch decoded
  · rintro ⟨-, record⟩
    have written := decode_encode_append order event (bytes.drop family.recordSize)
    rwa [record, List.take_append_drop] at written

/-- The events of a family and the byte strings of the size of its records are the same, in either
byte order: an event is read as it was written, whatever stands behind it, only a buffer that is too
short gives none, and what a buffer gives is written as the record in front. So two buffers give the
same event exactly if they have the same record in front. -/
theorem record_roundTrip (family : Family) (order : ByteOrder) :
    (∀ (event : Event family) (rest : Bytes),
      (event.encode order).length = family.recordSize ∧
        decode family order (event.encode order ++ rest) = .ok event) ∧
    (∀ (bytes : Bytes) (failure : StreamError),
      decode family order bytes = .error failure ↔
        bytes.length < family.recordSize ∧ failure = .decode family.recordSize bytes.length) ∧
    (∀ (bytes : Bytes) (event : Event family),
      decode family order bytes = .ok event ↔
        family.recordSize ≤ bytes.length ∧ event.encode order = bytes.take family.recordSize) ∧
    (∀ bytes other : Bytes,
      (∃ event, decode family order bytes = .ok event ∧ decode family order other = .ok event) ↔
        family.recordSize ≤ bytes.length ∧ family.recordSize ≤ other.length ∧
          bytes.take family.recordSize = other.take family.recordSize) := by
  refine ⟨fun event rest => ⟨length_encode order event, decode_encode_append order event rest⟩,
    fun _ _ => decode_eq_error_iff, fun _ _ => decode_eq_ok_iff, fun bytes other => ?_⟩
  simp only [decode_eq_ok_iff]
  constructor
  · rintro ⟨event, ⟨enough, record⟩, enoughOther, recordOther⟩
    exact ⟨enough, enoughOther, record.symm.trans recordOther⟩
  · rintro ⟨enough, enoughOther, same⟩
    have record : (ofRecord order bytes enough).encode order = bytes.take family.recordSize :=
      encode_ofRecord enough
    exact ⟨ofRecord order bytes enough, ⟨enough, record⟩, enoughOther, record.trans same⟩

end Event

end ProbeStream
