import Mathlib.Data.List.Basic
import Mathlib.Data.Nat.Bitwise
import Mathlib.Data.Nat.ModEq
import ProbeStream.Perf.Area

/-!
# What a ring area holds

The kernel writes at the head and the reader reads at the tail, and both counters run through the
data again and again. `Holds area content` says what a reader that comes now must find: the bytes
from the tail on, each at its counter modulo the size of the data.

Results:

1. `length_copyRing`, `getElem?_copyRing`: a copy is as long as the counters are apart, but at most
   as long as the data, and its byte number `i` is the one at `tail + i`.
2. `Holds.unread_eq`: a reader finds what the area holds.
3. `Holds.push`, `Holds.advance`: writing adds at the end, reading leaves nothing.
-/

namespace ProbeStream.Perf

/-- Sizes of the data of an area: powers of two that a counter can hold. -/
def IsRingSize (size : Nat) : Prop := ∃ exponent < 64, size = 2 ^ exponent

theorem IsRingSize.pos {size : Nat} (ringSize : IsRingSize size) : 0 < size := by
  obtain ⟨exponent, _, rfl⟩ := ringSize
  exact Nat.two_pow_pos exponent

theorem IsRingSize.lt {size : Nat} (ringSize : IsRingSize size) : size < 2 ^ 64 := by
  obtain ⟨exponent, small, rfl⟩ := ringSize
  exact Nat.pow_lt_pow_right (by decide) small

/-- The counters wrap at a multiple of the size, so wrapping never moves a place. -/
theorem IsRingSize.mod_mod {size : Nat} (ringSize : IsRingSize size) (counter : Nat) :
    counter % 2 ^ 64 % size = counter % size := by
  obtain ⟨exponent, small, rfl⟩ := ringSize
  exact Nat.mod_mod_of_dvd counter (Nat.pow_dvd_pow 2 small.le)

/-- Masking a counter gives its place in the data. -/
theorem IsRingSize.toNat_and_mask {size : Nat} (ringSize : IsRingSize size) (counter : UInt64) :
    (counter &&& (UInt64.ofNat size - 1)).toNat = counter.toNat % size := by
  have below := ringSize.lt
  have least := ringSize.pos
  have mask : (UInt64.ofNat size - 1).toNat = size - 1 := by
    rw [UInt64.toNat_sub_of_le, UInt64.toNat_ofNat_of_lt' below]
    · rfl
    · rw [UInt64.le_iff_toNat_le, UInt64.toNat_ofNat_of_lt' below]
      exact least
  rw [UInt64.toNat_and, mask]
  obtain ⟨exponent, _, rfl⟩ := ringSize
  exact Nat.and_two_pow_sub_one_eq_mod counter.toNat exponent

/-! ## Copying -/

theorem length_copyRing {data : Bytes} (ringSize : IsRingSize data.length) (tail head : UInt64) :
    (copyRing data tail head).length = min (head - tail).toNat data.length := by
  have start : tail.toNat % data.length < data.length := Nat.mod_lt _ ringSize.pos
  simp only [copyRing, ringSize.toNat_and_mask, List.length_append, Bytes.slice, List.length_take,
    List.length_drop]
  omega

/-- The copy reads the data from the place of the tail on, and goes on at the front when it comes
to the end. -/
theorem getElem?_copyRing {data : Bytes} (ringSize : IsRingSize data.length) {tail head : UInt64}
    {i : Nat} (inside : i < min (head - tail).toNat data.length) :
    (copyRing data tail head)[i]? = data[(tail.toNat + i) % data.length]? := by
  have start : tail.toNat % data.length < data.length := Nat.mod_lt _ ringSize.pos
  have place : (tail.toNat + i) % data.length = (tail.toNat % data.length + i) % data.length :=
    (Nat.mod_add_mod _ _ _).symm
  simp only [copyRing, ringSize.toNat_and_mask, Bytes.slice, place]
  generalize tail.toNat % data.length = begin at *
  -- the byte stands in the first piece, or in the second one, which begins at the front
  by_cases before : begin + i < data.length
  · rw [Nat.mod_eq_of_lt before, List.getElem?_append_left (by simp; omega),
      List.getElem?_take_of_lt (by omega), List.getElem?_drop]
  · have once : (begin + i) % data.length = begin + i - data.length := by
      rw [Nat.mod_eq_sub_mod (by omega), Nat.mod_eq_of_lt (by omega)]
    rw [once, List.getElem?_append_right (by simp; omega), List.getElem?_take_of_lt]
    · congr 1
      simp
      omega
    · simp
      omega

/-! ## Contents -/

namespace Area

@[simp] theorem length_data_pushByte (area : Area) (byte : UInt8) :
    (area.pushByte byte).data.length = area.data.length := by
  simp [pushByte]

@[simp] theorem head_pushByte (area : Area) (byte : UInt8) :
    (area.pushByte byte).head = area.head + 1 := rfl

@[simp] theorem tail_pushByte (area : Area) (byte : UInt8) :
    (area.pushByte byte).tail = area.tail := rfl

@[simp] theorem length_data_push (area : Area) (piece : Bytes) :
    (area.push piece).data.length = area.data.length := by
  induction piece generalizing area with
  | nil => rfl
  | cons byte rest ih => exact (ih (area.pushByte byte)).trans (length_data_pushByte area byte)

/-- What a reader that comes now must find. -/
structure Holds (area : Area) (content : Bytes) : Prop where
  ringSize : IsRingSize area.data.length
  used : (area.head - area.tail).toNat = content.length
  fits : content.length ≤ area.data.length
  bytes : ∀ i < content.length, area.data[(area.tail.toNat + i) % area.data.length]? = content[i]?

namespace Holds

variable {area : Area} {content : Bytes}

/-- An area whose counters are equal holds nothing, whatever its data. -/
theorem nil (ringSize : IsRingSize area.data.length) (level : area.head = area.tail) :
    area.Holds [] where
  ringSize := ringSize
  used := by simp [level]
  fits := Nat.zero_le _
  bytes := by simp

/-- A reader finds what the area holds. -/
theorem unread_eq (holds : area.Holds content) : area.unread = content := by
  unfold unread
  split
  · next level =>
    have empty := holds.used
    rw [level, UInt64.sub_self] at empty
    exact (List.eq_nil_of_length_eq_zero empty.symm).symm
  · have length : (copyRing area.data area.tail area.head).length = content.length := by
      rw [length_copyRing holds.ringSize, holds.used, Nat.min_eq_left holds.fits]
    refine List.ext_getElem? fun i => ?_
    by_cases inside : i < content.length
    · rw [getElem?_copyRing holds.ringSize, holds.bytes i inside]
      rw [holds.used]
      exact lt_min inside (inside.trans_le holds.fits)
    · rw [List.getElem?_eq_none (by omega), List.getElem?_eq_none (by omega)]

/-- The head stands behind what the area holds. -/
theorem head_place (holds : area.Holds content) :
    area.head.toNat % area.data.length =
      (area.tail.toNat + content.length) % area.data.length := by
  have sum : area.tail + (area.head - area.tail) = area.head := by
    rw [UInt64.add_comm, UInt64.sub_add_cancel]
  calc area.head.toNat % area.data.length
      = (area.tail + (area.head - area.tail)).toNat % area.data.length := by rw [sum]
    _ = (area.tail.toNat + content.length) % area.data.length := by
      rw [UInt64.toNat_add, holds.used, holds.ringSize.mod_mod]

/-- Writing a byte adds it at the end. -/
theorem pushByte (holds : area.Holds content) (room : content.length < area.data.length)
    (byte : UInt8) : (area.pushByte byte).Holds (content ++ [byte]) where
  ringSize := by simpa using holds.ringSize
  used := by
    have below := holds.ringSize.lt
    have held := holds.used
    have head := area.head.toNat_lt
    have tail := area.tail.toNat_lt
    rw [UInt64.toNat_sub] at held
    rw [List.length_append, List.length_singleton, head_pushByte, tail_pushByte,
      UInt64.toNat_sub, UInt64.toNat_add, UInt64.toNat_one]
    omega
  fits := by
    rw [List.length_append, List.length_singleton, length_data_pushByte]
    exact room
  bytes := by
    intro i inside
    simp only [Area.pushByte, List.length_set, holds.head_place]
    rw [List.length_append, List.length_singleton] at inside
    by_cases old : i < content.length
    · -- less than the whole data is held, so the head is at none of the places that are
      have apart : (area.tail.toNat + content.length) % area.data.length ≠
          (area.tail.toNat + i) % area.data.length := by
        intro same
        have := Nat.ModEq.add_left_cancel' area.tail.toNat same
        rw [Nat.ModEq, Nat.mod_eq_of_lt room, Nat.mod_eq_of_lt (by omega)] at this
        omega
      rw [List.getElem?_set_ne apart, holds.bytes i old, List.getElem?_append_left old]
    · obtain rfl : i = content.length := by omega
      rw [List.getElem?_set_self (Nat.mod_lt _ holds.ringSize.pos)]
      simp

/-- Writing bytes adds them at the end. -/
theorem push (holds : area.Holds content) {piece : Bytes}
    (room : content.length + piece.length ≤ area.data.length) :
    (area.push piece).Holds (content ++ piece) := by
  induction piece generalizing area content with
  | nil => simpa [Area.push] using holds
  | cons byte rest ih =>
    rw [List.length_cons] at room
    have next := holds.pushByte (by omega) byte
    have pushed := ih next (by
      rw [List.length_append, List.length_singleton, length_data_pushByte]
      omega)
    simpa [Area.push] using pushed

/-- Reading leaves nothing. -/
theorem advance (holds : area.Holds content) : area.advance.Holds [] :=
  nil holds.ringSize rfl

end Holds

end Area

end ProbeStream.Perf
