import ProbeStream.Elf.Image
import ProbeStream.Proofs.Words

/-!
# Sections of the file and sections of the image

The image of a file has at each place the section with that number in the section table, if its
header is usable, and nothing otherwise (`Image.isSome_section?_iff`). A section of the image has
the type and the info of its header, and is not empty (`Image.header_of_section?`). What else it
has is in `scanSection_eq_some_iff`, and its relocations in `relocations?_eq`.

So a relocation section that the file has for a program may be missing in the image.
-/

namespace ProbeStream.Elf

/-- The section table of a file, if it can be read. -/
def sectionTable? (file : Bytes) : Option SectionTable :=
  match Header.parse file with
  | .error _ => none
  | .ok header => (SectionTable.parse header file).toOption

/-- The section header of a number, if the file has one. -/
def sectionHeader? (file : Bytes) (number : Nat) : Option SectionHeader :=
  (sectionTable? file).bind (·.headers[number]?)

/-- What a section header must be for its section to be in the image: its name can be read and is
not empty, its size is not zero, its bytes are in the file, and if it is one of relocations, they
are whole and aligned. -/
structure SectionHeader.Usable (header : SectionHeader) (file : Bytes) (table : SectionTable) :
    Prop where
  named : ∃ name, table.name? file header = some name ∧ name ≠ []
  notEmpty : header.size ≠ 0
  inFile : header.isNoBits ∨ header.offset.toNat + header.size.toNat ≤ file.length
  whole : header.type = typeRelocation →
    header.size.toNat % relocationSize = 0 ∧ header.offset.toNat % 8 = 0

/-- The section of this number is usable. -/
def IsUsable (file : Bytes) (number : Nat) : Prop :=
  ∃ table header, sectionTable? file = some table ∧ table.headers[number]? = some header ∧
    header.Usable file table

/-- The file has a relocation section of this number for a target, and it is not empty. -/
def IsRelocationFor (file : Bytes) (target number : Nat) : Prop :=
  number ≠ 0 ∧ ∃ header, sectionHeader? file number = some header ∧
    header.type = typeRelocation ∧ header.info.toNat = target ∧ header.size ≠ 0

variable {order : ByteOrder} {file : Bytes} {table : SectionTable} {number : Nat}
  {header : SectionHeader} {part : Section} {image : Image}

/-! ## Scanning one header -/

/-- A section is made of the name, the bytes and the relocations that are read for its header. -/
theorem scanSection_eq_some_iff :
    (scanSection order file table number header).1 = some part ↔
      ∃ name data entries, table.name? file header = some name ∧ name ≠ [] ∧ header.size ≠ 0 ∧
        header.data? file = some data ∧ relocations? order file header = some entries ∧
        part = ⟨number, Utf8.decodeLossy name, header.type, header.info, data, entries⟩ := by
  rw [scanSection]
  cases table.name? file header with
  | none => simp
  | some name =>
    cases name with
    | nil => simp
    | cons first rest =>
      dsimp only
      by_cases empty : header.size = 0
      · simp [empty]
      · rw [if_neg empty]
        cases header.data? file with
        | none => simp
        | some data =>
          cases relocations? order file header with
          | none => simp
          | some entries => simp [empty, eq_comm]

theorem header_of_scanSection
    (found : (scanSection order file table number header).1 = some part) :
    part.type = header.type ∧ part.info = header.info ∧ header.size ≠ 0 := by
  obtain ⟨_, _, _, _, _, notEmpty, _, _, rfl⟩ := scanSection_eq_some_iff.mp found
  exact ⟨rfl, rfl, notEmpty⟩

theorem isSome_data?_iff : (header.data? file).isSome ↔
    header.isNoBits ∨ header.offset.toNat + header.size.toNat ≤ file.length := by
  rw [SectionHeader.data?]
  cases header.isNoBits with
  | true => simp
  | false => simp [Option.isSome_ite]

theorem entries?_of_data? {bytes : Bytes} (data : header.data? file = some bytes)
    {width alignment : Nat} :
    header.entries? file width alignment =
      if bytes.length % width = 0 ∧ header.offset.toNat % alignment = 0 then
        some (bytes.pieces width (bytes.length / width))
      else none := by
  rw [SectionHeader.entries?, data]
  change Option.bind (if _ then some () else none) _ = _
  by_cases whole : bytes.length % width = 0 ∧ header.offset.toNat % alignment = 0
  · rw [if_pos whole, if_pos whole]
    rfl
  · rw [if_neg whole, if_neg whole]
    rfl

/-! ### Relocations -/

/-- The relocation whose words stand at an offset of the file. -/
def relocationAt (order : ByteOrder) (file : Bytes) (offset : Nat) : Relocation where
  offset := order.u64At file offset
  symbol := (order.u64At file (offset + 8) >>> 32).toNat

/-- The relocations that stand one behind the other in the bytes of a section. -/
def relocationsIn (order : ByteOrder) (file : Bytes) (header : SectionHeader) : List Relocation :=
  (List.range (header.size.toNat / relocationSize)).map fun place =>
    relocationAt order file (header.offset.toNat + place * relocationSize)

theorem ofBytes_slice (order : ByteOrder) (file : Bytes) (offset : Nat) :
    Relocation.ofBytes order (file.slice offset relocationSize) =
      relocationAt order file offset := by
  have upper (word : UInt64) : word.toNat / UInt32.size = (word >>> 32).toNat := by
    rw [UInt64.toNat_shiftRight, Nat.shiftRight_eq_div_pow]
    rfl
  simp only [Relocation.ofBytes, relocationAt, upper, ByteOrder.u64At]
  rw [Bytes.slice_slice (by decide), Bytes.slice_slice (by decide), Nat.add_zero]

theorem relocations?_eq (inFile : (header.data? file).isSome) :
    relocations? order file header =
      if header.type = typeRelocation then
        if header.size.toNat % relocationSize = 0 ∧ header.offset.toNat % 8 = 0 then
          some (relocationsIn order file header)
        else none
      else some [] := by
  rw [relocations?]
  by_cases isRelocation : header.type = typeRelocation
  · have bits : header.isNoBits = false := by
      rw [SectionHeader.isNoBits, isRelocation]
      rfl
    have fits := (isSome_data?_iff.mp inFile).resolve_left (by simp [bits])
    have data : header.data? file =
        some (file.slice header.offset.toNat header.size.toNat) := by
      rw [SectionHeader.data?, bits, if_neg Bool.false_ne_true, if_pos fits]
    rw [if_pos isRelocation, if_pos isRelocation, entries?_of_data? data, Bytes.length_slice fits]
    by_cases whole : header.size.toNat % relocationSize = 0 ∧ header.offset.toNat % 8 = 0
    · rw [if_pos whole, if_pos whole, Option.map_some]
      refine congrArg some (List.ext_getElem? fun place => ?_)
      rw [relocationsIn, List.getElem?_map, List.getElem?_map]
      by_cases inside : place < header.size.toNat / relocationSize
      · have entryFits : place * relocationSize + relocationSize ≤ header.size.toNat := by
          rw [← Nat.succ_mul]
          exact Nat.le_trans (Nat.mul_le_mul_right _ inside) (Nat.div_mul_le_self _ _)
        rw [Bytes.getElem?_pieces _ inside, List.getElem?_range inside, Option.map_some,
          Option.map_some, Bytes.slice_slice entryFits, ofBytes_slice]
      · rw [List.getElem?_eq_none (by simpa using inside),
          List.getElem?_eq_none (by simpa using inside)]
        rfl
    · rw [if_neg whole, if_neg whole, Option.map_none]
  · rw [if_neg isRelocation, if_neg isRelocation]

/-- The bytes of a relocation section must be whole entries at a multiple of eight. -/
theorem isSome_relocations?_iff (inFile : (header.data? file).isSome) :
    (relocations? order file header).isSome ↔ (header.type = typeRelocation →
      header.size.toNat % relocationSize = 0 ∧ header.offset.toNat % 8 = 0) := by
  rw [relocations?_eq inFile]
  by_cases isRelocation : header.type = typeRelocation
  · simp [isRelocation, Option.isSome_ite]
  · simp [isRelocation]

/-! ### Usable headers -/

theorem isSome_scanSection_iff :
    (scanSection order file table number header).1.isSome ↔ header.Usable file table := by
  rw [Option.isSome_iff_exists]
  constructor
  · rintro ⟨part, found⟩
    obtain ⟨name, data, entries, named, notNil, notEmpty, isData, isEntries, _⟩ :=
      scanSection_eq_some_iff.mp found
    have inFile : (header.data? file).isSome := Option.isSome_of_eq_some isData
    exact ⟨⟨name, named, notNil⟩, notEmpty, isSome_data?_iff.mp inFile,
      (isSome_relocations?_iff inFile).mp (Option.isSome_of_eq_some isEntries)⟩
  · rintro ⟨⟨name, named, notNil⟩, notEmpty, inFile, whole⟩
    have inFile := isSome_data?_iff.mpr inFile
    obtain ⟨data, isData⟩ := Option.isSome_iff_exists.mp inFile
    obtain ⟨entries, isEntries⟩ := Option.isSome_iff_exists.mp
      ((@isSome_relocations?_iff order file header inFile).mpr whole)
    exact ⟨_, scanSection_eq_some_iff.mpr
      ⟨name, data, entries, named, notNil, notEmpty, isData, isEntries, rfl⟩⟩

theorem getElem?_scanSections (headers : List SectionHeader) (place : Nat) :
    (scanSections order file table number headers).1[place]? =
      headers[place]?.map fun header =>
        (scanSection order file table (number + place) header).1 := by
  induction headers generalizing number place with
  | nil => rfl
  | cons header rest ih =>
    rw [scanSections]
    cases place with
    | zero => rfl
    | succ place =>
      rw [List.getElem?_cons_succ, List.getElem?_cons_succ, ih, Nat.add_right_comm]
      rfl

/-! ## The sections of an image -/

namespace Image

/-- A file with an image has a header and a section table, and the image has what the scan of the
table has found. -/
theorem tables_of_parse (parsed : (parse file).1 = .ok image) :
    ∃ header table, Header.parse file = .ok header ∧ SectionTable.parse header file = .ok table ∧
      image.order = header.order ∧
      image.slots = none :: (scanSections header.order file table 1 (table.headers.drop 1)).1 := by
  rw [parse] at parsed
  cases readHeader : Header.parse file with
  | error fault =>
    rw [readHeader] at parsed
    cases parsed
  | ok header =>
    rw [readHeader] at parsed
    dsimp only at parsed
    cases readTable : SectionTable.parse header file with
    | error fault =>
      rw [readTable] at parsed
      cases parsed
    | ok table =>
      rw [readTable] at parsed
      dsimp only at parsed
      cases named : (objectSymbols header.order file table.headers).1 with
      | error fault =>
        rw [named] at parsed
        cases parsed
      | ok symbols =>
        rw [named] at parsed
        cases parsed
        exact ⟨header, table, rfl, readTable, rfl, rfl⟩

/-- A file has an image with a property if parsing finds one that is tested for it. -/
theorem exists_of_any {Has : Image → Prop} [DecidablePred Has]
    (tested : (parse file).1.toOption.any fun image => decide (Has image)) :
    ∃ image, (parse file).1 = .ok image ∧ Has image := by
  cases parsed : (parse file).1 with
  | error fault =>
    rw [parsed] at tested
    cases tested
  | ok image =>
    rw [parsed] at tested
    exact ⟨image, rfl, of_decide_eq_true tested⟩

theorem slots_of_parse (parsed : (parse file).1 = .ok image) :
    ∃ order table, sectionTable? file = some table ∧
      image.slots = none :: (scanSections order file table 1 (table.headers.drop 1)).1 := by
  obtain ⟨header, table, readHeader, readTable, _, slots⟩ := tables_of_parse parsed
  refine ⟨header.order, table, ?_, slots⟩
  rw [sectionTable?, readHeader]
  dsimp only
  rw [readTable]
  rfl

section Slots

variable
  (slots : image.slots = none :: (scanSections order file table 1 (table.headers.drop 1)).1)
include slots

theorem section?_of_slots (notZero : number ≠ 0) :
    image.section? number = (table.headers[number]?).bind fun header =>
      (scanSection order file table number header).1 := by
  obtain ⟨place, rfl⟩ := Nat.exists_eq_succ_of_ne_zero notZero
  rw [section?, slots, List.getElem?_cons_succ, getElem?_scanSections, List.getElem?_drop,
    Nat.add_comm 1 place]
  cases table.headers[place + 1]? with
  | none => rfl
  | some header => rfl

/-- The section of a number is what the scan of its header has found. -/
theorem section?_eq_some_iff_scanned :
    image.section? number = some part ↔ number ≠ 0 ∧
      ∃ header, table.headers[number]? = some header ∧
        (scanSection order file table number header).1 = some part := by
  by_cases isZero : number = 0
  · rw [isZero, section?, slots]
    simp
  · rw [section?_of_slots slots isZero, Option.bind_eq_some_iff]
    simp [isZero]

theorem isSome_section?_iff_usable :
    (image.section? number).isSome ↔ number ≠ 0 ∧
      ∃ header, table.headers[number]? = some header ∧ header.Usable file table := by
  rw [Option.isSome_iff_exists]
  constructor
  · rintro ⟨part, found⟩
    obtain ⟨notZero, header, here, scanned⟩ := (section?_eq_some_iff_scanned slots).mp found
    exact ⟨notZero, header, here, isSome_scanSection_iff.mp (Option.isSome_of_eq_some scanned)⟩
  · rintro ⟨notZero, header, here, usable⟩
    obtain ⟨part, scanned⟩ := Option.isSome_iff_exists.mp
      ((@isSome_scanSection_iff order file table number header).mpr usable)
    exact ⟨part, (section?_eq_some_iff_scanned slots).mpr ⟨notZero, header, here, scanned⟩⟩

end Slots

/-- A file whose headers and symbols can be read has an image. -/
theorem exists_image {header : Header} {symbols : Option (List Symbol)}
    (readHeader : Header.parse file = .ok header)
    (readTable : SectionTable.parse header file = .ok table)
    (readSymbols : (objectSymbols header.order file table.headers).1 = .ok symbols) :
    ∃ image, (parse file).1 = .ok image ∧ image.order = header.order ∧ image.symbols = symbols ∧
      image.slots = none :: (scanSections header.order file table 1 (table.headers.drop 1)).1 := by
  rw [parse, readHeader]
  dsimp only
  rw [readTable]
  dsimp only
  rw [readSymbols]
  exact ⟨_, rfl, rfl, rfl, rfl⟩

theorem isSome_section?_iff (parsed : (parse file).1 = .ok image) (notZero : number ≠ 0) :
    (image.section? number).isSome ↔ IsUsable file number := by
  obtain ⟨order, table, read, slots⟩ := slots_of_parse parsed
  rw [isSome_section?_iff_usable slots, IsUsable]
  constructor
  · rintro ⟨_, header, found, usable⟩
    exact ⟨table, header, read, found, usable⟩
  · rintro ⟨other, header, readOther, found, usable⟩
    obtain rfl := Option.some.inj (read.symm.trans readOther)
    exact ⟨notZero, header, found, usable⟩

/-- A section of the image has the type and the info of its header, which is not empty. -/
theorem header_of_section? (parsed : (parse file).1 = .ok image)
    (found : image.section? number = some part) :
    number ≠ 0 ∧ ∃ header, sectionHeader? file number = some header ∧
      part.type = header.type ∧ part.info = header.info ∧ header.size ≠ 0 := by
  obtain ⟨order, table, read, slots⟩ := slots_of_parse parsed
  obtain ⟨notZero, header, here, scanned⟩ := (section?_eq_some_iff_scanned slots).mp found
  refine ⟨notZero, header, ?_, header_of_scanSection scanned⟩
  rw [sectionHeader?, read]
  exact here

/-- A relocation section of the image is one of the file. -/
theorem isRelocationFor_of_mem (parsed : (parse file).1 = .ok image)
    (present : part ∈ image.sections) (isRelocation : part.isRelocation) :
    IsRelocationFor file part.info.toNat part.number := by
  obtain ⟨notZero, header, found, type, info, notEmpty⟩ :=
    header_of_section? parsed (section?_eq_some_iff.mpr ⟨present, rfl⟩)
  refine ⟨notZero, header, found, ?_, ?_, notEmpty⟩
  · rw [← type]
    exact beq_iff_eq.mp isRelocation
  · rw [info]

/-- A relocation section of the file that is in the image is one there. -/
theorem isRelocation_of_section? (parsed : (parse file).1 = .ok image) {target : Nat}
    (isRelocation : IsRelocationFor file target number)
    (found : image.section? number = some part) :
    part.isRelocation ∧ part.info.toNat = target := by
  obtain ⟨_, header, here, type, info, _⟩ := isRelocation
  obtain ⟨_, other, there, sameType, sameInfo, _⟩ := header_of_section? parsed found
  obtain rfl := Option.some.inj (here.symm.trans there)
  exact ⟨beq_iff_eq.mpr (sameType.trans type), by rw [sameInfo, info]⟩

end Image

end ProbeStream.Elf
