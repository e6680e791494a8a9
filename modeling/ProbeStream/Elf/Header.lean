import ProbeStream.Bytes

/-!
# File and section headers

A 64-bit ELF file begins with a header of 64 bytes, which says where the section table stands.
Each entry of that table is a section header, again of 64 bytes. All words are in the byte order
that the file header names.
-/

namespace ProbeStream.Elf

/-- Bytes in the file header. -/
def headerSize : Nat := 64

def sectionHeaderSize : Nat := 64

/-- A section of symbols. -/
def typeSymbolTable : UInt32 := 2

/-- A section of NUL-terminated strings. -/
def typeStringTable : UInt32 := 3

/-- A section that takes no room in the file. -/
def typeNoBits : UInt32 := 8

/-- A section of relocations without addends. -/
def typeRelocation : UInt32 := 9

/-- A section of section numbers too large for the symbols that they belong to. -/
def typeSymbolSections : UInt32 := 18

/-- The number that says: the section number is too large, look in section header zero. -/
def numberElsewhere : UInt16 := 0xFFFF

/-! ## The file header -/

/-- What the file header says about the section table. -/
structure Header where
  order : ByteOrder
  tableOffset : UInt64
  entrySize : UInt16
  entryCount : UInt16
  nameTable : UInt16
deriving DecidableEq, Repr

/-- Why some bytes are no 64-bit ELF file. -/
inductive HeaderFault where
  | tooShort
  | unsupported
deriving DecidableEq, Repr

namespace HeaderFault

def message : HeaderFault → String
  | .tooShort => "Invalid ELF header size or alignment"
  | .unsupported => "Unsupported ELF header"

end HeaderFault

/-- The byte order that an encoding byte names. -/
def byteOrder? (encoding : UInt8) : Option ByteOrder :=
  if encoding = 1 then some .little
  else if encoding = 2 then some .big
  else none

/-- The bytes that every 64-bit ELF file begins with: the magic number and the class. -/
def magic : Bytes := [0x7F, 0x45, 0x4C, 0x46, 2]

/-- Reads the file header. The magic number, a known byte order and version 1 are required; the
fields that nothing here uses are not looked at. -/
def Header.parse (file : Bytes) : Except HeaderFault Header :=
  if file.length < headerSize then .error .tooShort
  else if file.take 5 = magic ∧ file[6]? = some 1 then
    match file[5]?.bind byteOrder? with
    | none => .error .unsupported
    | some order => .ok {
        order
        tableOffset := order.u64At file 40
        entrySize := order.u16At file 58
        entryCount := order.u16At file 60
        nameTable := order.u16At file 62 }
  else .error .unsupported

/-! ## Section headers -/

/-- One entry of the section table. -/
structure SectionHeader where
  name : UInt32
  type : UInt32
  flags : UInt64
  offset : UInt64
  size : UInt64
  link : UInt32
  info : UInt32
deriving DecidableEq, Repr

namespace SectionHeader

def ofBytes (order : ByteOrder) (bytes : Bytes) : SectionHeader where
  name := order.u32At bytes 0
  type := order.u32At bytes 4
  flags := order.u64At bytes 8
  offset := order.u64At bytes 24
  size := order.u64At bytes 32
  link := order.u32At bytes 40
  info := order.u32At bytes 44

/-- Whether the section takes no room in the file. -/
def isNoBits (header : SectionHeader) : Bool := header.type == typeNoBits

/-- The bytes of a section, if the file holds all of them. -/
def data? (header : SectionHeader) (file : Bytes) : Option Bytes :=
  if header.isNoBits then some []
  else if header.offset.toNat + header.size.toNat ≤ file.length then
    some (file.slice header.offset.toNat header.size.toNat)
  else none

/-- The bytes of a section that holds entries of `width` bytes, aligned to `alignment`: they
must be in the file, a whole number of entries, and begin at a multiple of the alignment. -/
def entries? (header : SectionHeader) (file : Bytes) (width alignment : Nat) :
    Option (List Bytes) := do
  let data ← header.data? file
  guard (data.length % width = 0 ∧ header.offset.toNat % alignment = 0)
  return data.pieces width (data.length / width)

end SectionHeader

end ProbeStream.Elf
