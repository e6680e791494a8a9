import ProbeStream.Proofs.Elf.RoundTrip
import ProbeStream.Proofs.Elf.Scan

/-!
# The scan of the section table, number by number

The image of a file has a section of a number exactly if the section table has a usable header of
that number, and all that the section has is read from the file for this header
(`scanSection_eq_some_iff_isRead`). There is nothing else that the scan looks at, so a section that
is broken neither moves, nor hides, nor changes another one (`Image.section?_congr`).

Every section has a number below the count of the sections. That stays so while a load writes other
bytes into sections (`Image.number_lt_sectionCount_rewritten`).

In `unevenFile` the relocations end in the middle of an entry.
-/

namespace ProbeStream.Elf

variable {order : ByteOrder} {file other : Bytes} {table otherTable : SectionTable} {number : Nat}
  {header : SectionHeader} {part : Section} {image otherImage : Image}

/-! ## One section -/

/-- All that the section has is read from the file for a header of the section table. -/
structure Section.IsRead (part : Section) (order : ByteOrder) (file : Bytes) (table : SectionTable)
    (number : Nat) (header : SectionHeader) : Prop where
  number : part.number = number
  name : (table.name? file header).map Utf8.decodeLossy = some part.name
  type : part.type = header.type
  info : part.info = header.info
  data : part.data =
    if header.isNoBits then [] else file.slice header.offset.toNat header.size.toNat
  relocations : part.relocations =
    if header.type = typeRelocation then relocationsIn order file header else []

/-- At most one section is read for a header. -/
theorem Section.IsRead.unique {first second : Section}
    (here : first.IsRead order file table number header)
    (there : second.IsRead order file table number header) : first = second := by
  have name := Option.some.inj (here.name.symm.trans there.name)
  cases first
  cases second
  simp only [Section.mk.injEq]
  exact ⟨here.number.trans there.number.symm, name, here.type.trans there.type.symm,
    here.info.trans there.info.symm, here.data.trans there.data.symm,
    here.relocations.trans there.relocations.symm⟩

theorem eq_of_data?_eq_some {data : Bytes} (read : header.data? file = some data) :
    data = if header.isNoBits then [] else file.slice header.offset.toNat header.size.toNat := by
  rw [SectionHeader.data?] at read
  cases bits : header.isNoBits with
  | true =>
    rw [bits] at read
    cases read
    rfl
  | false =>
    rw [bits, if_neg Bool.false_ne_true, Option.ite_none_right_eq_some] at read
    exact (Option.some.inj read.2).symm

theorem eq_of_relocations?_eq_some {entries : List Relocation}
    (inFile : (header.data? file).isSome) (read : relocations? order file header = some entries) :
    entries = if header.type = typeRelocation then relocationsIn order file header else [] := by
  rw [relocations?_eq inFile] at read
  by_cases isRelocation : header.type = typeRelocation
  · rw [if_pos isRelocation, Option.ite_none_right_eq_some] at read
    rw [if_pos isRelocation]
    exact (Option.some.inj read.2).symm
  · rw [if_neg isRelocation] at read
    rw [if_neg isRelocation]
    exact (Option.some.inj read).symm

theorem isRead_of_scanSection
    (found : (scanSection order file table number header).1 = some part) :
    part.IsRead order file table number header := by
  obtain ⟨name, data, entries, named, _, _, readData, readEntries, rfl⟩ :=
    scanSection_eq_some_iff.mp found
  exact {
    number := rfl
    name := by rw [named, Option.map_some]
    type := rfl
    info := rfl
    data := eq_of_data?_eq_some readData
    relocations := eq_of_relocations?_eq_some (Option.isSome_of_eq_some readData) readEntries }

/-- The scan finds a section for a header if that is usable, and the one that is read for it. -/
theorem scanSection_eq_some_iff_isRead :
    (scanSection order file table number header).1 = some part ↔
      header.Usable file table ∧ part.IsRead order file table number header := by
  constructor
  · intro found
    exact ⟨isSome_scanSection_iff.mp (Option.isSome_of_eq_some found),
      isRead_of_scanSection found⟩
  · rintro ⟨usable, isRead⟩
    obtain ⟨found, here⟩ := Option.isSome_iff_exists.mp
      ((@isSome_scanSection_iff order file table number header).mpr usable)
    rw [here, isRead.unique (isRead_of_scanSection here)]

/-- Where a name and the bytes come from does not matter. -/
theorem scanSection_congr (name : table.name? file header = otherTable.name? other header)
    (data : header.data? file = header.data? other) :
    (scanSection order file table number header).1 =
      (scanSection order other otherTable number header).1 := by
  have entries : relocations? order file header = relocations? order other header := by
    rw [relocations?, relocations?, SectionHeader.entries?, SectionHeader.entries?, data]
  rw [scanSection, scanSection, name, data, entries]

/-! ## What a section is read from -/

/-- What a section of some number is read from: its header, and its name and its bytes, if they can
be read. -/
structure Source where
  order : ByteOrder
  header : SectionHeader
  name? : Option Bytes
  data? : Option Bytes
deriving DecidableEq

/-- What a section of this number is read from, if the section table has the number. -/
def source? (file : Bytes) (number : Nat) : Option Source :=
  match Header.parse file with
  | .error _ => none
  | .ok header =>
    match SectionTable.parse header file with
    | .error _ => none
    | .ok table => table.headers[number]?.map fun entry =>
        ⟨header.order, entry, table.name? file entry, entry.data? file⟩

theorem source?_of_parse {header : Header} (readHeader : Header.parse file = .ok header)
    (readTable : SectionTable.parse header file = .ok table) :
    source? file number = table.headers[number]?.map fun entry =>
      ⟨header.order, entry, table.name? file entry, entry.data? file⟩ := by
  rw [source?, readHeader]
  dsimp only
  rw [readTable]

namespace Image

theorem section?_zero (parsed : (parse file).1 = .ok image) : image.section? 0 = none := by
  obtain ⟨_, _, _, _, _, slots⟩ := tables_of_parse parsed
  rw [section?, slots]
  rfl

/-- Images have the same section of a number if it is read from the same in both files. -/
theorem section?_congr (parsed : (parse file).1 = .ok image)
    (otherParsed : (parse other).1 = .ok otherImage)
    (same : source? file number = source? other number) :
    image.section? number = otherImage.section? number := by
  by_cases notZero : number = 0
  · rw [notZero, section?_zero parsed, section?_zero otherParsed]
  · obtain ⟨header, table, readHeader, readTable, _, slots⟩ := tables_of_parse parsed
    obtain ⟨otherHeader, otherTable, readOther, readOtherTable, _, otherSlots⟩ :=
      tables_of_parse otherParsed
    rw [source?_of_parse readHeader readTable, source?_of_parse readOther readOtherTable] at same
    rw [section?_of_slots slots notZero, section?_of_slots otherSlots notZero]
    cases here : table.headers[number]? with
    | none =>
      rw [here, Option.map_none, eq_comm, Option.map_eq_none_iff] at same
      rw [same]
      rfl
    | some entry =>
      rw [here, Option.map_some, eq_comm, Option.map_eq_some_iff] at same
      obtain ⟨otherEntry, there, equal⟩ := same
      obtain ⟨sameOrder, rfl, name, data⟩ := Source.mk.inj equal
      rw [there, Option.bind_some, Option.bind_some, ← sameOrder]
      exact scanSection_congr name.symm data.symm

/-! ## The numbers of the sections -/

theorem number_lt_sectionCount (image : Image) (present : part ∈ image.sections) :
    part.number < image.sectionCount := by
  have found := section?_eq_some_iff.mpr ⟨present, rfl⟩
  rw [section?, Option.join_eq_some_iff] at found
  exact (List.getElem?_eq_some_iff.mp found).1

/-- The image with other bytes in some sections, one after the other. -/
def rewritten (image : Image) (changes : List (Nat × Bytes)) : Image :=
  changes.foldl (fun image change => image.withData change.1 change.2) image

theorem sectionCount_withData (image : Image) (number : Nat) (data : Bytes) :
    (image.withData number data).sectionCount = image.sectionCount :=
  List.length_modify ..

theorem sectionCount_rewritten (image : Image) (changes : List (Nat × Bytes)) :
    (image.rewritten changes).sectionCount = image.sectionCount := by
  induction changes generalizing image with
  | nil => rfl
  | cons change rest ih => exact (ih _).trans (image.sectionCount_withData ..)

theorem number_lt_sectionCount_rewritten (image : Image) (changes : List (Nat × Bytes))
    (present : part ∈ (image.rewritten changes).sections) : part.number < image.sectionCount := by
  rw [← image.sectionCount_rewritten changes]
  exact number_lt_sectionCount _ present

/-! ## The whole table -/

theorem length_scanSections (headers : List SectionHeader) :
    (scanSections order file table number headers).1.length = headers.length := by
  induction headers generalizing number with
  | nil => rfl
  | cons header rest ih => exact congrArg (· + 1) ih

section Slots

variable
  (slots : image.slots = none :: (scanSections order file table 1 (table.headers.drop 1)).1)
include slots

theorem sectionCount_of_slots : image.sectionCount = max 1 table.headers.length := by
  rw [sectionCount, slots, List.length_cons, length_scanSections, List.length_drop]
  omega

/-- The section of a number is the one that is read for its header, if that is usable. -/
theorem section?_eq_some_iff_isRead :
    image.section? number = some part ↔ number ≠ 0 ∧
      ∃ header, table.headers[number]? = some header ∧ header.Usable file table ∧
        part.IsRead order file table number header := by
  simp only [section?_eq_some_iff_scanned slots, scanSection_eq_some_iff_isRead]

end Slots

/-- The scan is exact at every number: it has a place for each header and for number zero, in which
the section stands that is read for the header, if that is usable, whatever else is in the file.
Every section has a place, also when a load has written other bytes into some. -/
theorem scan_exact (parsed : (parse file).1 = .ok image) :
    ∃ header table, Header.parse file = .ok header ∧ SectionTable.parse header file = .ok table ∧
      image.order = header.order ∧
      image.sectionCount = max 1 table.headers.length ∧
      (∀ number, (image.section? number).isSome ↔
        number ≠ 0 ∧ ∃ entry, table.headers[number]? = some entry ∧ entry.Usable file table) ∧
      (∀ number part, image.section? number = some part →
        ∃ entry, table.headers[number]? = some entry ∧
          part.IsRead header.order file table number entry) ∧
      (∀ other otherImage number, (parse other).1 = .ok otherImage →
        source? file number = source? other number →
          image.section? number = otherImage.section? number) ∧
      ∀ changes, ∀ part ∈ (image.rewritten changes).sections,
        part.number < image.sectionCount := by
  obtain ⟨header, table, readHeader, readTable, sameOrder, slots⟩ := tables_of_parse parsed
  refine ⟨header, table, readHeader, readTable, sameOrder, sectionCount_of_slots slots,
    fun _ => isSome_section?_iff_usable slots, ?_, ?_, ?_⟩
  · intro number part found
    obtain ⟨_, entry, here, _, isRead⟩ := (section?_eq_some_iff_isRead slots).mp found
    exact ⟨entry, here, isRead⟩
  · intro other otherImage number otherParsed same
    exact section?_congr parsed otherParsed same
  · intro changes part present
    exact image.number_lt_sectionCount_rewritten changes present

/-! ### A relocation section that ends in the middle of an entry -/

/-- The file of `smallPlan` in which the relocation section has one byte more. -/
def unevenFile : Bytes := (smallPlan.layout .big).overwrite 463 [17]

/-- The image lacks the relocation section only. -/
theorem scan_exact_unevenFile :
    ∃ image intact, (parse unevenFile).1 = .ok image ∧
      (parse (smallPlan.layout .big)).1 = .ok intact ∧
      image.section? 3 = none ∧ (intact.section? 3).isSome ∧
      image.section? 4 = some ⟨4, "maps", 1, 7, [1, 2, 3], []⟩ ∧
      ∀ number < 8, number ≠ 3 → image.section? number = intact.section? number := by
  obtain ⟨image, parsed, absent, maps⟩ : ∃ image, (parse unevenFile).1 = .ok image ∧
      image.section? 3 = none ∧ image.section? 4 = some ⟨4, "maps", 1, 7, [1, 2, 3], []⟩ :=
    exists_of_any (by decide +kernel)
  obtain ⟨intact, intactParsed, present⟩ :
      ∃ intact, (parse (smallPlan.layout .big)).1 = .ok intact ∧ (intact.section? 3).isSome :=
    exists_of_any (by decide +kernel)
  have same : ∀ number < 8, number ≠ 3 →
      source? unevenFile number = source? (smallPlan.layout .big) number := by decide +kernel
  obtain ⟨_, _, _, _, _, _, _, _, others, _⟩ := scan_exact parsed
  exact ⟨image, intact, parsed, intactParsed, absent, present, maps, fun number below apart =>
    others _ intact number intactParsed (same number below apart)⟩

end Image

end ProbeStream.Elf
