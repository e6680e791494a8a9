import ProbeStream.Elf.Header
import ProbeStream.Elf.StringTable

/-!
# The section table

The table is found through the file header. Two of its numbers may be too large for their
fields, and then stand in the section header of number zero:

- an entry count of zero means: the count is the size field of header zero;
- a name table of `0xFFFF` means: its number is the link field of header zero.

A file without a table, or with a table without entries, has no sections. Otherwise there must
be a name table, although what it holds is not checked.
-/

namespace ProbeStream.Elf

/-- Why the section table of a file cannot be read. -/
inductive TableFault where
  | entrySize
  | firstEntry
  | placement
  | noNameTable
  | nameTableNumber
  | nameTableSize
deriving DecidableEq, Repr

namespace TableFault

def message : TableFault → String
  | .entrySize => "Invalid ELF section header entry size"
  | .firstEntry => "Invalid ELF section header offset or size"
  | .placement => "Invalid ELF section header offset/size/alignment"
  | .noNameTable => "Missing ELF e_shstrndx"
  | .nameTableNumber => "Invalid ELF e_shstrndx"
  | .nameTableSize => "Invalid ELF shstrtab size"

end TableFault

/-- The section headers of a file and the table that names them. -/
structure SectionTable where
  headers : List SectionHeader
  /-- Absent if the names take no room in the file. -/
  names : Option StringTable
deriving DecidableEq, Repr

/-- The first `count` section headers, if they all lie in the file and are aligned. -/
def headersAt? (header : Header) (file : Bytes) (count : Nat) : Option (List SectionHeader) :=
  let start := header.tableOffset.toNat
  if start + count * sectionHeaderSize ≤ file.length ∧ start % 8 = 0 then
    some <| (Bytes.pieces sectionHeaderSize count (file.drop start)).map
      (SectionHeader.ofBytes header.order)
  else none

def sectionCount (header : Header) (file : Bytes) : Except TableFault Nat :=
  if header.entryCount ≠ 0 then .ok header.entryCount.toNat
  else if header.entrySize.toNat ≠ sectionHeaderSize then .error .entrySize
  else match headersAt? header file 1 with
    | some (first :: _) => .ok first.size.toNat
    | _ => .error .firstEntry

def nameTable (header : Header) (headers : List SectionHeader) :
    Except TableFault (Option StringTable) :=
  let number :=
    if header.nameTable = numberElsewhere then
      (headers.head?.map (·.link.toNat)).getD 0
    else header.nameTable.toNat
  if number = 0 then .error .noNameTable
  else match headers[number]? with
    | none => .error .nameTableNumber
    | some names =>
      if names.isNoBits then .ok none
      else if UInt64.size ≤ names.offset.toNat + names.size.toNat then .error .nameTableSize
      else .ok (some ⟨names.offset.toNat, names.offset.toNat + names.size.toNat⟩)

namespace SectionTable

/-- The table of a file without sections. -/
def empty : SectionTable := ⟨[], none⟩

def parse (header : Header) (file : Bytes) : Except TableFault SectionTable :=
  if header.tableOffset = 0 then .ok empty
  else match sectionCount header file with
    | .error fault => .error fault
    | .ok count =>
      if count = 0 then .ok empty
      else if header.entrySize.toNat ≠ sectionHeaderSize then .error .entrySize
      else match headersAt? header file count with
        | none => .error .placement
        | some headers => (nameTable header headers).map fun names => ⟨headers, names⟩

/-- The name of a section, if it can be read. -/
def name? (table : SectionTable) (file : Bytes) (header : SectionHeader) : Option Bytes := do
  (← table.names).get? file header.name.toNat

end SectionTable

end ProbeStream.Elf
