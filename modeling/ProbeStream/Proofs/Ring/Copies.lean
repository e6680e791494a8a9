import ProbeStream.Proofs.Ring.Contents

/-!
# Copies out of a ring

What lies between two counters is copied in two pieces: one up to the end of the data, and what is
left of it from the front. If the size of the data is a power of two, both pieces lie inside the
data (`CopiesInside`), and the copy is byte for byte what the counters stand for, wherever they
stand: the head may have wrapped around to a smaller number than the tail, and it may be further
ahead than the data is long, in which case all of the data is copied, from the place of the tail on
(`copyRing_exact`).
-/

namespace ProbeStream.Perf

/-! ## Places of a copy -/

/-- The place of the tail. -/
def copyStart (data : Bytes) (tail : UInt64) : Nat :=
  (tail &&& (UInt64.ofNat data.length - 1)).toNat

/-- Bytes in a copy. -/
def copyLength (data : Bytes) (tail head : UInt64) : Nat := min (head - tail).toNat data.length

/-- Bytes of a copy that stand in front of the end of the data. -/
def copyFirst (data : Bytes) (tail head : UInt64) : Nat :=
  min (copyLength data tail head) (data.length - copyStart data tail)

theorem copyRing_eq (data : Bytes) (tail head : UInt64) :
    copyRing data tail head = data.slice (copyStart data tail) (copyFirst data tail head) ++
      data.take (copyLength data tail head - copyFirst data tail head) := rfl

/-- No number falls below zero when a ring is copied, and both pieces lie in the data. -/
structure CopiesInside (data : Bytes) (tail head : UInt64) : Prop where
  mask : 1 ≤ UInt64.ofNat data.length
  start : copyStart data tail < data.length
  first : copyStart data tail + copyFirst data tail head ≤ data.length
  second : copyLength data tail head - copyFirst data tail head ≤ data.length

theorem IsRingSize.copiesInside {data : Bytes} (ringSize : IsRingSize data.length)
    (tail head : UInt64) : CopiesInside data tail head := by
  have start : copyStart data tail < data.length := by
    rw [copyStart, ringSize.toNat_and_mask]
    exact Nat.mod_lt _ ringSize.pos
  refine ⟨?_, start, ?_, ?_⟩
  · rw [UInt64.le_iff_toNat_le, UInt64.toNat_ofNat_of_lt' ringSize.lt]
    exact ringSize.pos
  · unfold copyFirst
    omega
  · unfold copyLength
    omega

/-! ## The bytes of a copy -/

/-- The distance of two counters, over the end of the counters if need be. -/
theorem toNat_sub_eq (head tail : UInt64) :
    (head - tail).toNat = (2 ^ 64 + head.toNat - tail.toNat) % 2 ^ 64 := by
  have small := tail.toNat_lt
  rw [UInt64.toNat_sub]
  congr 1
  omega

/-- A copy holds as many bytes as the counters are apart, but no more than the data, and its bytes
are those at the places of the counters from the tail on. It is put together from two pieces that
lie inside the data. -/
theorem copyRing_exact {data : Bytes} (ringSize : IsRingSize data.length) (tail head : UInt64) :
    (copyRing data tail head).length =
        min ((2 ^ 64 + head.toNat - tail.toNat) % 2 ^ 64) data.length ∧
      (∀ i < (copyRing data tail head).length,
        (copyRing data tail head)[i]? = data[(tail.toNat + i) % data.length]?) ∧
      copyRing data tail head = data.slice (copyStart data tail) (copyFirst data tail head) ++
        data.take (copyLength data tail head - copyFirst data tail head) ∧
      CopiesInside data tail head := by
  have length := length_copyRing ringSize tail head
  refine ⟨?_, fun i inside => ?_, copyRing_eq data tail head, ringSize.copiesInside tail head⟩
  · rw [length, toNat_sub_eq]
  · rw [length] at inside
    exact getElem?_copyRing ringSize inside

/-- A head that has wrapped around is five bytes ahead of a tail that has not, and the copy runs
over the end of the data. -/
theorem copyRing_exact_wrapped :
    let data : Bytes := [10, 11, 12, 13, 14, 15, 16, 17]
    IsRingSize data.length ∧ (copyRing data (0 - 2) 3).length = 5 ∧
      (copyRing data (0 - 2) 3)[0]? = some 16 ∧ (copyRing data (0 - 2) 3)[4]? = some 12 ∧
      CopiesInside data (0 - 2) 3 := by
  have ringSize : IsRingSize ([10, 11, 12, 13, 14, 15, 16, 17] : Bytes).length :=
    ⟨3, by decide, rfl⟩
  obtain ⟨length, bytes, -, inside⟩ := copyRing_exact ringSize (0 - 2) 3
  have five : (copyRing [10, 11, 12, 13, 14, 15, 16, 17] (0 - 2) 3).length = 5 := length
  exact ⟨ringSize, five, bytes 0 (by rw [five]; decide), bytes 4 (by rw [five]; decide), inside⟩

end ProbeStream.Perf
