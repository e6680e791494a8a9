import Mathlib.Algebra.Group.Nat.Defs
import ProbeStream.Bytes

/-!
# Numbers and pieces in bytes

Writing a number in so many bytes and reading it back gives its lowest digits to base 256, in either
byte order, and reading bytes and writing the number gives the bytes back.

Bytes are cut into pieces of one width and put together again (`Bytes.flatten_pieces`,
`Bytes.pieces_flatMap`).

`Bytes.HasAt` says that a piece stands at an offset; what is known of a whole is handed down to the
pieces that it is put together from (`append_left`, `append_right`). So a word is read as it was
written (`HasAt.u64At`), and a word that was read is written as it stood there (`u64_u64At`).
-/

namespace ProbeStream

namespace Bytes

theorem toNat_lt (bytes : Bytes) : toNat bytes < 256 ^ bytes.length := by
  induction bytes with
  | nil => simp [toNat]
  | cons b rest ih =>
    have := b.toNat_lt
    simp only [toNat, List.length_cons, Nat.pow_succ]
    omega

theorem toNat_ofNat (width n : Nat) : toNat (ofNat width n) = n % 256 ^ width := by
  induction width generalizing n with
  | zero => simp [ofNat, toNat, Nat.mod_one]
  | succ width ih =>
    have byte : (UInt8.ofNat n).toNat = n % 256 := UInt8.toNat_ofNat'
    simp only [ofNat, toNat, ih, byte]
    rw [Nat.pow_succ, Nat.mul_comm (256 ^ width) 256, Nat.mod_mul]

theorem ofNat_toNat (bytes : Bytes) : ofNat bytes.length (toNat bytes) = bytes := by
  induction bytes with
  | nil => rfl
  | cons b rest ih =>
    have bound := b.toNat_lt
    have quotient : (b.toNat + 256 * toNat rest) / 256 = toNat rest := by omega
    have head : UInt8.ofNat (b.toNat + 256 * toNat rest) = b := by
      apply UInt8.toNat_inj.mp
      rw [UInt8.toNat_ofNat']
      omega
    simp only [List.length_cons, ofNat, toNat, head, quotient, ih]

end Bytes

namespace ByteOrder

theorem decode_encode (order : ByteOrder) (width n : Nat) :
    order.decode (order.encode width n) = n % 256 ^ width := by
  simp [decode, encode, Bytes.toNat_ofNat]

theorem encode_decode (order : ByteOrder) (bytes : Bytes) :
    order.encode bytes.length (order.decode bytes) = bytes := by
  have := congrArg order.arrange (Bytes.ofNat_toNat (order.arrange bytes))
  simpa [decode, encode] using this

theorem decode_lt (order : ByteOrder) (bytes : Bytes) :
    order.decode bytes < 256 ^ bytes.length := by
  simpa [decode] using Bytes.toNat_lt (order.arrange bytes)

end ByteOrder

namespace Bytes

/-! ## Slices -/

theorem getElem?_overwrite {bytes piece : Bytes} {offset : Nat}
    (fits : offset + piece.length ≤ bytes.length) (place : Nat) :
    (bytes.overwrite offset piece)[place]? =
      if offset ≤ place ∧ place < offset + piece.length then piece[place - offset]?
      else bytes[place]? := by
  have front : (bytes.take offset).length = offset := by
    rw [List.length_take]
    omega
  rw [overwrite, List.append_assoc, List.getElem?_append, front]
  by_cases before : place < offset
  · rw [if_pos before, List.getElem?_take_of_lt before, if_neg (by omega)]
  rw [if_neg before, List.getElem?_append]
  by_cases inside : place - offset < piece.length
  · rw [if_pos inside, if_pos (by omega)]
  · rw [if_neg inside, if_neg (by omega), List.getElem?_drop]
    congr 1
    omega

theorem slice_overwrite {bytes piece : Bytes} {offset : Nat}
    (fits : offset + piece.length ≤ bytes.length) :
    (bytes.overwrite offset piece).slice offset piece.length = piece := by
  have front : (bytes.take offset).length = offset := by
    rw [List.length_take]
    omega
  rw [slice, overwrite, List.append_assoc, List.drop_left' front, List.take_left]

/-- Bytes that are the same in two programs are the same in their slices. -/
theorem slice_congr {bytes other : Bytes} {offset length : Nat}
    (same : ∀ place, offset ≤ place → place < offset + length → bytes[place]? = other[place]?) :
    bytes.slice offset length = other.slice offset length := by
  refine List.ext_getElem? fun place => ?_
  rw [slice, slice, List.getElem?_take, List.getElem?_take, List.getElem?_drop, List.getElem?_drop]
  split
  · exact same _ (by omega) (by omega)
  · rfl

/-- Two slices that meet are one. -/
theorem slice_append_slice (bytes : Bytes) {offset first second next : Nat}
    (meets : offset + first = next) :
    bytes.slice offset first ++ bytes.slice next second = bytes.slice offset (first + second) := by
  rw [slice, slice, slice, ← meets, ← List.drop_drop, ← List.take_add]

theorem slice_slice {bytes : Bytes} {offset length inner short : Nat}
    (inside : inner + short ≤ length) :
    (bytes.slice offset length).slice inner short = bytes.slice (offset + inner) short := by
  rw [slice, slice, slice, List.drop_take, List.take_take, List.drop_drop,
    Nat.min_eq_left (by omega)]

/-! ## Pieces of one width -/

theorem getElem?_pieces {width count index : Nat} (bytes : Bytes) (inside : index < count) :
    (bytes.pieces width count)[index]? = some (bytes.slice (index * width) width) := by
  induction count generalizing bytes index with
  | zero => exact absurd inside (Nat.not_lt_zero index)
  | succ count ih =>
    rw [pieces]
    cases index with
    | zero => simp [slice]
    | succ index =>
      rw [List.getElem?_cons_succ, ih _ (Nat.lt_of_succ_lt_succ inside), slice, slice,
        List.drop_drop, Nat.succ_mul, Nat.add_comm]

theorem length_of_mem_pieces {width count : Nat} {bytes piece : Bytes}
    (length : bytes.length = count * width) (member : piece ∈ bytes.pieces width count) :
    piece.length = width := by
  induction count generalizing bytes with
  | zero => cases member
  | succ count ih =>
    rw [Nat.succ_mul] at length
    rcases List.mem_cons.mp member with rfl | later
    · rw [List.length_take]
      omega
    · exact ih (by rw [List.length_drop]; omega) later

/-- Pieces that are put together again give the bytes that they were cut from. -/
theorem flatten_pieces {width count : Nat} {bytes : Bytes}
    (length : bytes.length = count * width) : (bytes.pieces width count).flatten = bytes := by
  induction count generalizing bytes with
  | zero =>
    rw [Nat.zero_mul] at length
    exact (List.eq_nil_of_length_eq_zero length).symm
  | succ count ih =>
    rw [Nat.succ_mul] at length
    rw [pieces, List.flatten_cons, ih (by rw [List.length_drop]; omega), List.take_append_drop]

section

variable {α : Type} {width : Nat} {write : α → Bytes}

theorem length_flatMap (each : ∀ entry, (write entry).length = width) (entries : List α) :
    (entries.flatMap write).length = entries.length * width := by
  induction entries with
  | nil => simp
  | cons entry others ih =>
    rw [List.flatMap_cons, List.length_append, each, ih, List.length_cons, Nat.succ_mul,
      Nat.add_comm]

/-- Entries that stand one behind the other are found again. -/
theorem pieces_flatMap_append (each : ∀ entry, (write entry).length = width) (entries : List α)
    (rest : Bytes) :
    pieces width entries.length (entries.flatMap write ++ rest) = entries.map write := by
  induction entries with
  | nil => rfl
  | cons entry others ih =>
    rw [List.flatMap_cons, List.length_cons, pieces, List.append_assoc,
      List.take_left' (each entry), List.drop_left' (each entry), ih, List.map_cons]

theorem pieces_flatMap (each : ∀ entry, (write entry).length = width) (entries : List α) :
    pieces width entries.length (entries.flatMap write) = entries.map write := by
  have found := pieces_flatMap_append each entries []
  rwa [List.append_nil] at found

/-- So are they behind a first entry of another kind. -/
theorem pieces_append_flatMap_append (each : ∀ entry, (write entry).length = width)
    {first : Bytes} (length : first.length = width) (entries : List α) (rest : Bytes) :
    pieces width (entries.length + 1) (first ++ entries.flatMap write ++ rest) =
      first :: entries.map write := by
  rw [pieces, List.append_assoc, List.take_left' length, List.drop_left' length,
    pieces_flatMap_append each]

end

/-! ## Pieces at offsets -/

/-- The piece stands at this offset. -/
def HasAt (bytes : Bytes) (offset : Nat) (piece : Bytes) : Prop :=
  ∃ before after, bytes = before ++ piece ++ after ∧ before.length = offset

namespace HasAt

variable {bytes piece first second : Bytes} {offset : Nat}

theorem whole (bytes : Bytes) : HasAt bytes 0 bytes := ⟨[], [], by simp, rfl⟩

theorem append_left (has : HasAt bytes offset (first ++ second)) : HasAt bytes offset first := by
  obtain ⟨before, after, rfl, length⟩ := has
  exact ⟨before, second ++ after, by simp, length⟩

theorem append_right (has : HasAt bytes offset (first ++ second)) {width : Nat}
    (length : first.length = width) : HasAt bytes (offset + width) second := by
  obtain ⟨before, after, rfl, rfl⟩ := has
  exact ⟨before ++ first, after, by simp, by simp [length]⟩

theorem trans (has : HasAt bytes offset piece) {inner : Nat} (hasInner : HasAt piece inner first) :
    HasAt bytes (offset + inner) first := by
  obtain ⟨before, after, rfl, rfl⟩ := has
  obtain ⟨front, back, rfl, rfl⟩ := hasInner
  exact ⟨before ++ front, back ++ after, by simp, by simp⟩

theorem fits (has : HasAt bytes offset piece) : offset + piece.length ≤ bytes.length := by
  obtain ⟨before, after, rfl, rfl⟩ := has
  simp

theorem drop_eq (has : HasAt bytes offset piece) : ∃ after, bytes.drop offset = piece ++ after := by
  obtain ⟨before, after, rfl, rfl⟩ := has
  exact ⟨after, by rw [List.append_assoc, List.drop_left]⟩

theorem slice_eq (has : HasAt bytes offset piece) : bytes.slice offset piece.length = piece := by
  obtain ⟨after, rest⟩ := has.drop_eq
  rw [slice, rest, List.take_left]

theorem getElem?_eq (has : HasAt bytes offset piece) {place : Nat} (inside : place < piece.length) :
    bytes[offset + place]? = piece[place]? := by
  obtain ⟨after, rest⟩ := has.drop_eq
  rw [← List.getElem?_drop, rest, List.getElem?_append_left inside]

section

variable {order : ByteOrder} {number : Nat}

theorem u16At (has : HasAt bytes offset (order.encode 2 number)) :
    order.u16At bytes offset = UInt16.ofNat number := by
  have stretch := has.slice_eq
  rw [ByteOrder.length_encode] at stretch
  rw [ByteOrder.u16At, stretch, ByteOrder.decode_encode]
  exact UInt16.toNat_inj.mp (by simp)

theorem u32At (has : HasAt bytes offset (order.encode 4 number)) :
    order.u32At bytes offset = UInt32.ofNat number := by
  have stretch := has.slice_eq
  rw [ByteOrder.length_encode] at stretch
  rw [ByteOrder.u32At, stretch, ByteOrder.decode_encode]
  exact UInt32.toNat_inj.mp (by simp)

theorem u64At (has : HasAt bytes offset (order.encode 8 number)) :
    order.u64At bytes offset = UInt64.ofNat number := by
  have stretch := has.slice_eq
  rw [ByteOrder.length_encode] at stretch
  rw [ByteOrder.u64At, stretch, ByteOrder.decode_encode]
  exact UInt64.toNat_inj.mp (by simp)

end

end HasAt

end Bytes

/-! ## Words that were read -/

namespace ByteOrder

variable {order : ByteOrder} {bytes : Bytes} {offset : Nat}

theorem encode_decode_slice {width : Nat} (fits : offset + width ≤ bytes.length) :
    order.encode width (order.decode (bytes.slice offset width)) = bytes.slice offset width := by
  have written := order.encode_decode (bytes.slice offset width)
  rwa [Bytes.length_slice fits] at written

theorem decode_slice_lt {width : Nat} (fits : offset + width ≤ bytes.length) :
    order.decode (bytes.slice offset width) < 256 ^ width := by
  have bound := order.decode_lt (bytes.slice offset width)
  rwa [Bytes.length_slice fits] at bound

theorem u16_u16At (fits : offset + 2 ≤ bytes.length) :
    order.u16 (order.u16At bytes offset) = bytes.slice offset 2 := by
  have small : order.decode (bytes.slice offset 2) < 2 ^ 16 := decode_slice_lt fits
  rw [u16, u16At, UInt16.toNat_ofNat', Nat.mod_eq_of_lt small, encode_decode_slice fits]

theorem u32_u32At (fits : offset + 4 ≤ bytes.length) :
    order.u32 (order.u32At bytes offset) = bytes.slice offset 4 := by
  have small : order.decode (bytes.slice offset 4) < 2 ^ 32 := decode_slice_lt fits
  rw [u32, u32At, UInt32.toNat_ofNat', Nat.mod_eq_of_lt small, encode_decode_slice fits]

theorem u64_u64At (fits : offset + 8 ≤ bytes.length) :
    order.u64 (order.u64At bytes offset) = bytes.slice offset 8 := by
  have small : order.decode (bytes.slice offset 8) < 2 ^ 64 := decode_slice_lt fits
  rw [u64, u64At, UInt64.toNat_ofNat', Nat.mod_eq_of_lt small, encode_decode_slice fits]

end ByteOrder

end ProbeStream
