import ProbeStream.Elf.Symbol
import ProbeStream.Log

/-!
# Object images

An image holds what a load needs of an object file: every *usable* section under its number,
and the symbols. A section is usable if

- its number is not zero,
- its name can be read and is not empty,
- its size is not zero,
- its bytes are in the file, and
- if it holds relocations, they are whole and aligned.

A section that is not usable leaves its place empty; it neither moves nor hides another one. A
file whose headers or symbols cannot be read has no image at all.
-/

namespace ProbeStream.Elf

/-- One entry of a relocation section. -/
structure Relocation where
  /-- Where in the target section the reference stands. -/
  offset : UInt64
  /-- The number of the symbol that it refers to. -/
  symbol : Nat
deriving DecidableEq, Repr

/-- A usable section. -/
structure Section where
  number : Nat
  name : String
  type : UInt32
  info : UInt32
  data : Bytes
  /-- Empty unless the section holds relocations. -/
  relocations : List Relocation
deriving DecidableEq, Repr

namespace Section

def isRelocation (part : Section) : Bool := part.type == typeRelocation

end Section

/-- The usable sections of an object by number, and its symbols. -/
structure Image where
  order : ByteOrder
  slots : List (Option Section)
  /-- Absent if the object has no symbol table. -/
  symbols : Option (List Symbol)
  /-- Every section stands in the place of its number. -/
  numbered : ∀ (number : Nat) (part : Section), slots[number]? = some (some part) →
    part.number = number
deriving DecidableEq, Repr

namespace Image

/-- How many places for sections there are, with the one of number zero. -/
def sectionCount (image : Image) : Nat := image.slots.length

/-- The usable section of a number. -/
def section? (image : Image) (number : Nat) : Option Section := image.slots[number]?.join

/-- The usable sections in the order of their numbers. -/
def sections (image : Image) : List Section := image.slots.filterMap id

/-- The image with other bytes in the section of this number. -/
def withData (image : Image) (number : Nat) (data : Bytes) : Image :=
  { image with
    slots := image.slots.modify number (·.map fun part => { part with data := data })
    numbered := by
      intro place part found
      rw [List.getElem?_modify] at found
      obtain ⟨slot, before, changed⟩ := Option.map_eq_some_iff.mp found
      cases slot with
      | none => simp at changed
      | some old =>
        have here := image.numbered place old before
        split at changed <;> cases changed <;> exact here }

theorem section?_eq_some_iff {image : Image} {number : Nat} {part : Section} :
    image.section? number = some part ↔ part ∈ image.sections ∧ part.number = number := by
  rw [section?, Option.join_eq_some_iff]
  constructor
  · intro found
    refine ⟨List.mem_filterMap.mpr ⟨some part, List.mem_of_getElem? found, rfl⟩, ?_⟩
    exact image.numbered number part found
  · rintro ⟨member, rfl⟩
    obtain ⟨slot, present, same⟩ := List.mem_filterMap.mp member
    obtain rfl : slot = some part := same
    obtain ⟨place, found⟩ := List.mem_iff_getElem?.mp present
    rw [image.numbered place part found]
    exact found

/-- Two sections of one number are one section. -/
theorem eq_of_number_eq {image : Image} {first second : Section} (here : first ∈ image.sections)
    (there : second ∈ image.sections) (same : first.number = second.number) : first = second :=
  Option.some.inj ((section?_eq_some_iff.mpr ⟨here, same⟩).symm.trans
    (section?_eq_some_iff.mpr ⟨there, rfl⟩))

end Image

/-- Why a file has no image. -/
inductive ImageFault where
  | header (fault : HeaderFault)
  | table (fault : TableFault)
  | symbols (fault : SymbolFault)
deriving DecidableEq, Repr

namespace ImageFault

def message : ImageFault → String
  | .header fault => s!"not an ELF64 object: {fault.message}"
  | .table fault => s!"unreadable section table: {fault.message}"
  | .symbols fault => s!"unreadable symbol table: {fault.message}"

end ImageFault

/-- What is said of a section whose bytes cannot be read. -/
def unreadableData : String := "Invalid ELF section size or offset"

def relocationSize : Nat := 16

/-- Reads a relocation from its bytes; the symbol number is the upper half of the second word. -/
def Relocation.ofBytes (order : ByteOrder) (bytes : Bytes) : Relocation where
  offset := order.u64At bytes 0
  symbol := (order.u64At bytes 8).toNat / UInt32.size

/-- The relocations of a section, which is empty unless its type is the one for relocations. -/
def relocations? (order : ByteOrder) (file : Bytes) (header : SectionHeader) :
    Option (List Relocation) :=
  if header.type = typeRelocation then
    (header.entries? file relocationSize 8).map (·.map (Relocation.ofBytes order))
  else some []

/-- Reads one section of the table, and tells why one with a name and a size is left out. -/
def scanSection (order : ByteOrder) (file : Bytes) (table : SectionTable) (number : Nat)
    (header : SectionHeader) : Option Section × Log :=
  match table.name? file header with
  | none | some [] => (none, [])
  | some name =>
    let name := Utf8.decodeLossy name
    if header.size = 0 then (none, [])
    else match header.data? file with
      | none => (none, [⟨.warn, s!"skipping section {number} ({name}): {unreadableData}"⟩])
      | some data =>
        match relocations? order file header with
        | none =>
          (none,
            [⟨.warn, s!"skipping relocation section {number} ({name}): {unreadableData}"⟩])
        | some relocations =>
          (some { number, name, type := header.type, info := header.info, data, relocations },
            [⟨.debug, s!"section {number}:{name} size {data.length} " ++
              s!"link {header.link.toNat} flags {header.flags.toNat}"⟩])

/-- Reads the sections of the table from `number` on. -/
def scanSections (order : ByteOrder) (file : Bytes) (table : SectionTable) :
    (number : Nat) → List SectionHeader → List (Option Section) × Log
  | _, [] => ([], [])
  | number, header :: rest =>
    let found := scanSection order file table number header
    let others := scanSections order file table (number + 1) rest
    (found.1 :: others.1, found.2 ++ others.2)

theorem scanSection_number {order : ByteOrder} {file : Bytes} {table : SectionTable} {number : Nat}
    {header : SectionHeader} {part : Section}
    (found : (scanSection order file table number header).1 = some part) :
    part.number = number := by
  unfold scanSection at found
  repeat' split at found
  all_goals simp at found
  rw [← found]

/-- The sections are numbered in the order of the table. -/
theorem scanSections_number {order : ByteOrder} {file : Bytes} {table : SectionTable}
    {number : Nat} {headers : List SectionHeader} {place : Nat} {part : Section}
    (found : (scanSections order file table number headers).1[place]? = some (some part)) :
    part.number = number + place := by
  induction headers generalizing number place with
  | nil => simp [scanSections] at found
  | cons header rest ih =>
    rw [scanSections] at found
    cases place with
    | zero => exact scanSection_number (Option.some.inj found)
    | succ place =>
      rw [List.getElem?_cons_succ] at found
      rw [ih found]
      omega

/-- The symbols of an object, or nothing if no section behind the first is a symbol table. -/
def objectSymbols (order : ByteOrder) (file : Bytes) (headers : List SectionHeader) :
    Except ImageFault (Option (List Symbol)) × Log :=
  let count := (headers.drop 1).countP (·.type == typeSymbolTable)
  let log : Log :=
    if 1 < count then [⟨.warn, s!"object has {count} symbol tables, using the first"⟩] else []
  if count = 0 then (.ok none, log)
  else match symbols order headers file with
    | .error fault => (.error (.symbols fault), log)
    | .ok found => (.ok (some found), log)

/-- Reads the image of an object file. -/
def Image.parse (file : Bytes) : Except ImageFault Image × Log :=
  match Header.parse file with
  | .error fault => (.error (.header fault), [])
  | .ok header =>
    match SectionTable.parse header file with
    | .error fault => (.error (.table fault), [])
    | .ok table =>
      let found := scanSections header.order file table 1 (table.headers.drop 1)
      let named := objectSymbols header.order file table.headers
      let image (symbols : Option (List Symbol)) : Image :=
        { order := header.order
          slots := none :: found.1
          symbols
          numbered := by
            intro number part present
            cases number with
            | zero => simp at present
            | succ place =>
              rw [List.getElem?_cons_succ] at present
              rw [scanSections_number present]
              omega }
      (named.1.map image, found.2 ++ named.2)

end ProbeStream.Elf
