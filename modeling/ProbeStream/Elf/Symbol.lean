import ProbeStream.Elf.SectionTable
import ProbeStream.Text.Utf8

/-!
# Symbols

A symbol is an entry of 24 bytes in the symbol table. The table's link names the string table
with the names; without a link every name is empty, and so is a name that cannot be read.
-/

namespace ProbeStream.Elf

/-- A named place in a section. -/
structure Symbol where
  name : String
  /-- The number of the section in which the symbol is defined. -/
  sectionNumber : Nat
  /-- The offset in that section. -/
  value : UInt64
deriving DecidableEq, Repr

/-- Why the symbol table of a file cannot be read. -/
inductive SymbolFault where
  | data
  | stringSectionNumber
  | stringSectionType
  | stringSectionSize
  | sectionNumbers
deriving DecidableEq, Repr

namespace SymbolFault

def message : SymbolFault → String
  | .data => "Invalid ELF symbol table data"
  | .stringSectionNumber => "Invalid ELF section index"
  | .stringSectionType => "Invalid ELF string section type"
  | .stringSectionSize => "Invalid ELF string section offset or size"
  | .sectionNumbers => "Invalid ELF symtab_shndx data"

end SymbolFault

def symbolSize : Nat := 24

/-- The strings that a link names; a link of zero names none. -/
def linkedStrings (headers : List SectionHeader) (link : Nat) :
    Except SymbolFault (Option StringTable) :=
  if link = 0 then .ok none
  else match headers[link]? with
    | none => .error .stringSectionNumber
    | some strings =>
      if strings.type ≠ typeStringTable then .error .stringSectionType
      else if UInt64.size ≤ strings.offset.toNat + strings.size.toNat then .error .stringSectionSize
      else .ok (some ⟨strings.offset.toNat, strings.offset.toNat + strings.size.toNat⟩)

def Symbol.ofBytes (order : ByteOrder) (file : Bytes) (strings : Option StringTable)
    (bytes : Bytes) : Symbol where
  name := ((strings.bind (·.get? file (order.u32At bytes 0).toNat)).map Utf8.decodeLossy).getD ""
  sectionNumber := (order.u16At bytes 6).toNat
  value := order.u64At bytes 8

/-- Whether every table of large section numbers for the symbol table of this number can be
read. -/
def sectionNumbersReadable (headers : List SectionHeader) (file : Bytes) (number : Nat) : Bool :=
  headers.all fun header =>
    header.type != typeSymbolSections || header.link.toNat != number ||
      (header.entries? file 4 4).isSome

/-- The symbols of the first symbol table, or none if there is no such table. -/
def symbols (order : ByteOrder) (headers : List SectionHeader) (file : Bytes) :
    Except SymbolFault (List Symbol) :=
  match headers.findIdx? (·.type == typeSymbolTable) with
  | none => .ok []
  | some number =>
    match headers[number]? with
    | none => .ok []
    | some table =>
      match table.entries? file symbolSize 8 with
      | none => .error .data
      | some entries =>
        match linkedStrings headers table.link.toNat with
        | .error fault => .error fault
        | .ok strings =>
          if sectionNumbersReadable headers file number then
            .ok (entries.map (Symbol.ofBytes order file strings))
          else .error .sectionNumbers

end ProbeStream.Elf
