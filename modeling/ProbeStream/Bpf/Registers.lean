import ProbeStream.Bytes

/-!
# The register byte of an instruction

An instruction names its source and its destination register in the two halves of its second
byte. The source register is the upper half in little-endian objects and the lower half in
big-endian ones.
-/

namespace ProbeStream.Bpf

/-- The two registers of an instruction. -/
structure Registers where
  byte : UInt8
deriving DecidableEq, Repr

namespace Registers

/-- The bits of the lower half. -/
def lowBits : UInt8 := 0x0F

/-- The bits of the upper half. -/
def highBits : UInt8 := 0xF0

/-- The lower half of the byte. -/
def low (registers : Registers) : UInt8 := registers.byte &&& lowBits

/-- The upper half of the byte. -/
def high (registers : Registers) : UInt8 := registers.byte >>> 4

/-- Puts the lower four bits of `value` into the lower half. -/
def setLow (registers : Registers) (value : UInt8) : Registers :=
  ⟨(registers.byte &&& highBits) ||| (value &&& lowBits)⟩

/-- Puts the lower four bits of `value` into the upper half. -/
def setHigh (registers : Registers) (value : UInt8) : Registers :=
  ⟨(registers.byte &&& lowBits) ||| ((value &&& lowBits) <<< 4)⟩

def source (order : ByteOrder) (registers : Registers) : UInt8 :=
  match order with
  | .little => registers.high
  | .big => registers.low

def destination (order : ByteOrder) (registers : Registers) : UInt8 :=
  match order with
  | .little => registers.low
  | .big => registers.high

/-- Names another source register, of which only the lower four bits count. -/
def setSource (order : ByteOrder) (registers : Registers) (value : UInt8) : Registers :=
  match order with
  | .little => registers.setHigh value
  | .big => registers.setLow value

end Registers

end ProbeStream.Bpf
