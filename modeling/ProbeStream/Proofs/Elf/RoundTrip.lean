import ProbeStream.Proofs.Elf.Layout
import ProbeStream.Proofs.Elf.Scan

/-!
# Objects are read as they were laid out

The image of a layout has every planned section under its number, with the name, the type, the info,
the bytes and the relocations of the plan, unless the section is empty, and it has the planned
symbols behind an empty one (`Image.parse_layout`). Both byte orders are written and read.

The plan must fit into the file format (`Plan.Fits`): offsets and numbers have so many bits, and a
NUL ends a string.

Both sides meet at the section table. Every part of a layout has an entry there, which says where
the bytes and the name of the part are (`Plan.Fits.exists_entry`), and all that is read is read
through these entries.
-/

namespace ProbeStream.Elf

open Bytes (HasAt)

/-! ## Plans that fit into the format -/

/-- The relocations of a planned section. -/
def PlannedSection.entries (planned : PlannedSection) : List Relocation :=
  match planned.body with
  | .data _ => []
  | .relocations entries => entries

/-- The numbers of a plan fit into their fields, and its strings into tables of strings. -/
structure Plan.Fits (order : ByteOrder) (plan : Plan) : Prop where
  few : plan.sections.length < 65280
  named : ∀ planned ∈ plan.sections, planned.name ≠ "" ∧ Char.ofNat 0 ∉ planned.name.toList
  relocations : ∀ planned ∈ plan.sections, ∀ entry ∈ planned.entries, entry.symbol < UInt32.size
  symbolNames : ∀ symbol ∈ plan.symbols, Char.ofNat 0 ∉ symbol.name.toList
  symbolSections : ∀ symbol ∈ plan.symbols, symbol.sectionNumber < UInt16.size
  small : (plan.layout order).length < UInt32.size

/-- The section of the image that a planned section becomes under a number, if it is not empty. -/
def PlannedSection.section? (order : ByteOrder) (number : Nat) (planned : PlannedSection) :
    Option Section :=
  match planned.body with
  | .data bytes =>
    if bytes = [] then none
    else some {
      number, name := planned.name, type := typeProgramBits, info := planned.info, data := bytes,
      relocations := [] }
  | .relocations entries =>
    if entries = [] then none
    else some {
      number, name := planned.name, type := typeRelocation, info := planned.info,
      data := entries.flatMap (·.toBytes order), relocations := entries }

/-- The symbols of the image, if there are any. -/
def Plan.tableSymbols (plan : Plan) : Option (List Symbol) :=
  if plan.symbols = [] then none else some (⟨"", 0, 0⟩ :: plan.symbols)

/-- An entry of the section table says where the bytes of a part are. -/
structure Part.IsPlaced (file : Bytes) (part : Part) (entry : SectionHeader) : Prop where
  type : entry.type = part.type
  link : entry.link = UInt32.ofNat part.link
  info : entry.info = part.info
  has : HasAt file entry.offset.toNat part.data
  size : entry.size.toNat = part.data.length
  aligned : entry.offset.toNat % 8 = 0

/-- The names of the parts that are not planned. -/
def tableNames : List String := [".symtab", ".strtab", ".shstrtab"]

/-- A planned section holds bytes or relocations. -/
theorem PlannedSection.type_part_ne (order : ByteOrder) (symbolTable : Nat)
    (planned : PlannedSection) {type : UInt32} (noBytes : typeProgramBits ≠ type)
    (noRelocations : typeRelocation ≠ type) : (planned.part order symbolTable).type ≠ type := by
  rw [part]
  split
  · exact noBytes
  · exact noRelocations

theorem PlannedSection.name_part (order : ByteOrder) (symbolTable : Nat)
    (planned : PlannedSection) : (planned.part order symbolTable).name = planned.name := by
  rw [part]
  split <;> rfl

theorem toNat_ofNat_of_small {offset : Nat} (small : offset < UInt32.size) :
    (UInt64.ofNat offset).toNat = offset :=
  UInt64.toNat_ofNat_of_lt' (Nat.lt_trans small (by decide))

variable {order : ByteOrder} {plan : Plan} {number : Nat} {part : Part}

namespace Plan

/-! ## The parts of a plan -/

/-- The names of all parts, which the last one holds. -/
def partNames (order : ByteOrder) (plan : Plan) : List String := (plan.parts order).map (·.name)

theorem parts_eq (order : ByteOrder) (plan : Plan) :
    plan.parts order =
      plan.namedParts order ++ [stringPart ".shstrtab" (plan.partNames order)] := by
  rw [partNames, parts]
  simp only [List.map_append, List.map_cons, List.map_nil]
  rfl

theorem length_parts_le (order : ByteOrder) (plan : Plan) :
    (plan.parts order).length ≤ plan.sections.length + 3 := by
  rw [parts_eq, List.length_append, namedParts, List.length_append, List.length_map, symbolParts]
  split <;> simp

theorem getElem?_parts {planned : PlannedSection} (found : plan.sections[number]? = some planned) :
    (plan.parts order)[number]? = some (planned.part order plan.symbolTable) := by
  obtain ⟨inside, _⟩ := List.getElem?_eq_some_iff.mp found
  rw [parts_eq, namedParts, List.append_assoc, List.getElem?_append_left (by simpa using inside),
    List.getElem?_map, found]
  rfl

/-- A part is a planned section or one of the tables behind them. -/
theorem planned_or_table (found : (plan.parts order)[number]? = some part) :
    (∃ planned, plan.sections[number]? = some planned ∧
      part = planned.part order plan.symbolTable) ∨
    plan.sections.length ≤ number ∧ part.name ∈ tableNames ∧
      (part.type = typeSymbolTable ∧ plan.symbols ≠ [] ∨ part.type = typeStringTable) := by
  cases isPlanned : plan.sections[number]? with
  | some planned =>
    rw [getElem?_parts isPlanned] at found
    cases found
    exact .inl ⟨planned, rfl, rfl⟩
  | none =>
    have behind := List.getElem?_eq_none_iff.mp isPlanned
    rw [parts_eq, namedParts, List.append_assoc,
      List.getElem?_append_right (by simpa using behind)] at found
    have member := List.mem_of_getElem? found
    rw [symbolParts] at member
    refine .inr ⟨behind, ?_⟩
    split at member
    · obtain rfl := List.mem_singleton.mp member
      exact ⟨show ".shstrtab" ∈ tableNames by decide, .inr rfl⟩
    · next present =>
      simp only [List.cons_append, List.nil_append, List.mem_cons, List.not_mem_nil,
        or_false] at member
      rcases member with rfl | rfl | rfl
      · exact ⟨show ".symtab" ∈ tableNames by decide, .inl ⟨rfl, present⟩⟩
      · exact ⟨show ".strtab" ∈ tableNames by decide, .inr rfl⟩
      · exact ⟨show ".shstrtab" ∈ tableNames by decide, .inr rfl⟩

/-- No part is left out of the file, or is a table of section numbers. -/
theorem type_part_ne (found : (plan.parts order)[number]? = some part) :
    part.type ≠ typeNoBits ∧ part.type ≠ typeSymbolSections := by
  rcases planned_or_table found with ⟨planned, _, rfl⟩ | ⟨_, _, ⟨symbols, _⟩ | strings⟩
  · exact ⟨planned.type_part_ne _ _ (by decide) (by decide),
      planned.type_part_ne _ _ (by decide) (by decide)⟩
  · rw [symbols]
    decide
  · rw [strings]
    decide

/-! ## Where the parts are -/

/-- Where the section table of a layout begins. -/
def tableOffset (order : ByteOrder) (plan : Plan) : Nat :=
  headerSize + (placed headerSize ((plan.parts order).map (·.data))).length

/-- The section table of a layout. -/
def headers (order : ByteOrder) (plan : Plan) : List SectionHeader :=
  .empty :: tableHeaders (plan.parts order)

/-- The file header of a layout. -/
def header (order : ByteOrder) (plan : Plan) : Header where
  order
  tableOffset := UInt64.ofNat (plan.tableOffset order)
  entrySize := UInt16.ofNat sectionHeaderSize
  entryCount := UInt16.ofNat ((plan.parts order).length + 1)
  nameTable := UInt16.ofNat (plan.parts order).length

theorem hasAt_layout (order : ByteOrder) (plan : Plan) :
    HasAt (plan.layout order) 0 (headerBytes order (plan.tableOffset order)
      ((plan.parts order).length + 1) (plan.parts order).length) ∧
    HasAt (plan.layout order) headerSize (placed headerSize ((plan.parts order).map (·.data))) ∧
    HasAt (plan.layout order) (plan.tableOffset order)
      (zeros sectionHeaderSize ++ tableBytes order (plan.parts order)) := by
  have header := HasAt.whole (plan.layout order)
  nth_rewrite 2 [layout] at header
  simp only [List.append_assoc] at header
  have bodies := header.append_right (length_headerBytes _ _ _ _)
  rw [Nat.zero_add] at bodies
  exact ⟨header.append_left, bodies.append_left, bodies.append_right rfl⟩

theorem Fits.isPlaced_header (fits : plan.Fits order) {place : Nat}
    (has : HasAt (plan.layout order) place part.data) (aligned : place % 8 = 0) (name : Nat) :
    part.IsPlaced (plan.layout order) (part.header name place) := by
  have inFile : place + part.data.length < UInt32.size := Nat.lt_of_le_of_lt has.fits fits.small
  have offset : (part.header name place).offset.toNat = place :=
    toNat_ofNat_of_small (Nat.lt_of_le_of_lt (Nat.le_add_right _ _) inFile)
  have size : (part.header name place).size.toNat = part.data.length :=
    toNat_ofNat_of_small (Nat.lt_of_le_of_lt (Nat.le_add_left _ _) inFile)
  refine ⟨rfl, rfl, rfl, ?_, size, ?_⟩
  · rw [offset]
    exact has
  · rw [offset]
    exact aligned

theorem Fits.exists_entry (fits : plan.Fits order)
    (found : (plan.parts order)[number]? = some part) :
    ∃ name entry, (stringStarts 1 (plan.partNames order))[number]? = some name ∧
      (plan.headers order)[number + 1]? = some entry ∧
      part.IsPlaced (plan.layout order) entry ∧ entry.name = UInt32.ofNat name := by
  obtain ⟨name, place, isName, isPlace, isEntry⟩ := getElem?_tableHeaders found
  have isData : ((plan.parts order).map (·.data))[number]? = some part.data := by
    rw [List.getElem?_map, found]
    rfl
  obtain ⟨has, aligned⟩ := hasAt_places (hasAt_layout order plan).2.1 isPlace isData
  exact ⟨name, _, isName, isEntry, fits.isPlaced_header has aligned name, rfl⟩

theorem Fits.not_le_end (fits : plan.Fits order) {entry : SectionHeader}
    (placed : part.IsPlaced (plan.layout order) entry) :
    ¬ UInt64.size ≤ entry.offset.toNat + part.data.length := by
  have inFile := Nat.lt_of_le_of_lt placed.has.fits fits.small
  exact Nat.not_le.mpr (Nat.lt_trans inFile (by decide))

/-- The offset of a string in a table fits into its field. -/
theorem Fits.stringOffset_lt (fits : plan.Fits order) {start offset : Nat} {table text : Bytes}
    (has : HasAt (plan.layout order) start table) (string : HasAt table offset (text ++ [0])) :
    offset < UInt32.size :=
  Nat.lt_of_le_of_lt (Nat.le_of_add_right_le string.fits)
    (Nat.lt_of_le_of_lt (Nat.le_of_add_left_le has.fits) fits.small)

/-! ## Reading the section table -/

theorem header_layout (order : ByteOrder) (plan : Plan) :
    Header.parse (plan.layout order) = .ok (plan.header order) :=
  Header.parse_of_hasAt (hasAt_layout order plan).1

theorem Fits.length_parts (fits : plan.Fits order) : (plan.parts order).length < 65283 := by
  have few := fits.few
  have most := length_parts_le order plan
  omega

theorem Fits.tableOffset_header (fits : plan.Fits order) :
    (plan.header order).tableOffset.toNat = plan.tableOffset order := by
  have inFile := Nat.le_of_add_right_le (hasAt_layout order plan).2.2.fits
  exact toNat_ofNat_of_small (Nat.lt_of_le_of_lt inFile fits.small)

theorem Fits.headersAt?_layout (fits : plan.Fits order) :
    headersAt? (plan.header order) (plan.layout order) ((plan.parts order).length + 1) =
      some (plan.headers order) := by
  refine headersAt?_of_hasAt ?_ ?_
  · rw [fits.tableOffset_header]
    exact (hasAt_layout order plan).2.2
  · rw [fits.tableOffset_header]
    exact mod_length_placed _ _

theorem Fits.sectionCount_layout (fits : plan.Fits order) :
    sectionCount (plan.header order) (plan.layout order) =
      .ok ((plan.parts order).length + 1) := by
  have few := fits.length_parts
  have count : (plan.header order).entryCount.toNat = (plan.parts order).length + 1 :=
    UInt16.toNat_ofNat_of_lt' (by change _ < 65536; omega)
  have notZero : (plan.header order).entryCount ≠ 0 := by
    intro zero
    rw [zero] at count
    exact absurd count (Nat.succ_ne_zero _).symm
  rw [sectionCount, if_pos notZero, count]

/-- The last part holds the names of all parts. -/
theorem Fits.nameTable_layout (fits : plan.Fits order) :
    ∃ start, HasAt (plan.layout order) start (stringBytes (plan.partNames order)) ∧
      nameTable (plan.header order) (plan.headers order) =
        .ok (some ⟨start, start + (stringBytes (plan.partNames order)).length⟩) := by
  have few := fits.length_parts
  have last : (plan.parts order)[(plan.namedParts order).length]? =
      some (stringPart ".shstrtab" (plan.partNames order)) := by
    rw [parts_eq, List.getElem?_concat_length]
  have count : (plan.parts order).length = (plan.namedParts order).length + 1 := by
    rw [parts_eq, List.length_append]
    rfl
  obtain ⟨_, entry, _, isEntry, placed, _⟩ := fits.exists_entry last
  rw [← count] at isEntry
  have number : (plan.header order).nameTable.toNat = (plan.parts order).length :=
    UInt16.toNat_ofNat_of_lt' (by change _ < 65536; omega)
  have here : (plan.header order).nameTable ≠ numberElsewhere := by
    intro elsewhere
    rw [elsewhere] at number
    change 65535 = _ at number
    omega
  have size : entry.size.toNat = (stringBytes (plan.partNames order)).length := placed.size
  have ends : ¬ UInt64.size ≤ entry.offset.toNat + (stringBytes (plan.partNames order)).length :=
    fits.not_le_end placed
  have bits : entry.isNoBits = false := by
    rw [SectionHeader.isNoBits, placed.type]
    rfl
  refine ⟨entry.offset.toNat, placed.has, ?_⟩
  rw [nameTable]
  simp only [if_neg here, number]
  rw [if_neg (by omega), isEntry]
  simp only [bits, size]
  rw [if_neg Bool.false_ne_true, if_neg ends]

/-- The section table of a layout is read with the names of all parts. -/
theorem Fits.table_layout (fits : plan.Fits order) :
    ∃ start, HasAt (plan.layout order) start (stringBytes (plan.partNames order)) ∧
      SectionTable.parse (plan.header order) (plan.layout order) =
        .ok ⟨plan.headers order,
          some ⟨start, start + (stringBytes (plan.partNames order)).length⟩⟩ := by
  have notZero : (plan.header order).tableOffset ≠ 0 := by
    intro zero
    have isZero := congrArg UInt64.toNat zero
    rw [fits.tableOffset_header, tableOffset] at isZero
    exact absurd isZero (Nat.ne_of_gt (Nat.add_pos_left (by decide) _))
  have entrySize : (plan.header order).entrySize.toNat = sectionHeaderSize := rfl
  obtain ⟨start, has, names⟩ := fits.nameTable_layout
  refine ⟨start, has, ?_⟩
  rw [SectionTable.parse, if_neg notZero, fits.sectionCount_layout]
  dsimp only
  rw [if_neg (Nat.succ_ne_zero _), if_neg (not_not_intro entrySize), fits.headersAt?_layout]
  dsimp only
  rw [names]
  rfl

theorem Fits.headers_eq (fits : plan.Fits order) {table : SectionTable}
    (read : SectionTable.parse (plan.header order) (plan.layout order) = .ok table) :
    table.headers = plan.headers order := by
  obtain ⟨start, _, parsed⟩ := fits.table_layout
  rw [read] at parsed
  cases parsed
  rfl

theorem Fits.named_part (fits : plan.Fits order) (found : (plan.parts order)[number]? = some part) :
    part.name ≠ "" ∧ Char.ofNat 0 ∉ part.name.toList := by
  rcases planned_or_table found with ⟨planned, isPlanned, rfl⟩ | ⟨_, isTable, _⟩
  · rw [planned.name_part]
    exact fits.named planned (List.mem_of_getElem? isPlanned)
  · -- three fixed names
    generalize part.name = name at isTable ⊢
    revert name
    decide

/-- What is read of a part: where it is, and its name. -/
theorem Fits.exists_placed (fits : plan.Fits order) {table : SectionTable}
    (read : SectionTable.parse (plan.header order) (plan.layout order) = .ok table)
    (found : (plan.parts order)[number]? = some part) :
    ∃ entry, table.headers[number + 1]? = some entry ∧ part.IsPlaced (plan.layout order) entry ∧
      table.name? (plan.layout order) entry = some (Utf8.encode part.name) := by
  obtain ⟨start, has, table⟩ := fits.table_layout
  rw [read] at table
  cases table
  obtain ⟨name, entry, isName, isEntry, placed, nameOf⟩ := fits.exists_entry found
  refine ⟨entry, isEntry, placed, ?_⟩
  have isString : (plan.partNames order)[number]? = some part.name := by
    rw [partNames, List.getElem?_map, found]
    rfl
  have string := hasAt_stringBytes isName isString
  have nameOffset : entry.name.toNat = name := by
    rw [nameOf]
    exact UInt32.toNat_ofNat_of_lt' (fits.stringOffset_lt has string)
  have noNul := Utf8.zero_notMem_encode (fits.named_part found).2
  change StringTable.get? _ _ entry.name.toNat = _
  rw [nameOffset]
  exact StringTable.get?_of_hasAt has string noNul

end Plan

/-! ## Sections -/

theorem Part.IsPlaced.data? {file : Bytes} {entry : SectionHeader}
    (placed : part.IsPlaced file entry) (inFile : part.type ≠ typeNoBits) :
    entry.data? file = some part.data := by
  have bits : entry.isNoBits = false := by
    rw [SectionHeader.isNoBits, placed.type]
    exact beq_false_of_ne inFile
  rw [SectionHeader.data?, bits, placed.size, if_neg Bool.false_ne_true, if_pos placed.has.fits,
    placed.has.slice_eq]

/-- A placed part with a name is a section of the image, unless it is empty. -/
theorem Part.IsPlaced.scanSection {file : Bytes} {table : SectionTable} {entry : SectionHeader}
    (placed : part.IsPlaced file entry) (inFile : part.type ≠ typeNoBits)
    (named : table.name? file entry = some (Utf8.encode part.name)) (notEmpty : part.name ≠ "") :
    (scanSection order file table number entry).1 =
      if part.data = [] then none
      else (relocations? order file entry).map fun relocations => {
        number, name := part.name, type := part.type, info := part.info, data := part.data,
        relocations } := by
  have isEmpty : entry.size = 0 ↔ part.data = [] := by
    rw [← UInt64.toNat_inj, placed.size]
    exact List.length_eq_zero_iff
  have notNil : Utf8.encode part.name ≠ [] := fun nil => notEmpty (Utf8.encode_eq_nil_iff.mp nil)
  rw [Elf.scanSection, named]
  generalize written : Utf8.encode part.name = name at notNil ⊢
  cases name with
  | nil => exact absurd rfl notNil
  | cons first rest =>
    dsimp only
    rw [← written, Utf8.decodeLossy_encode, placed.data? inFile]
    by_cases empty : part.data = []
    · rw [if_pos (isEmpty.mpr empty), if_pos empty]
    · rw [if_neg fun zero => empty (isEmpty.mp zero), if_neg empty]
      dsimp only
      cases relocations? order file entry with
      | none => rfl
      | some relocations => simp only [placed.type, placed.info, Option.map_some]

/-- The entries of a planned relocation section are read as they were written. -/
theorem PlannedSection.relocations?_part {file : Bytes} {entry : SectionHeader}
    {planned : PlannedSection} {symbolTable : Nat}
    (placed : (planned.part order symbolTable).IsPlaced file entry)
    (small : ∀ relocation ∈ planned.entries, relocation.symbol < UInt32.size) :
    relocations? order file entry = some planned.entries := by
  obtain ⟨name, flags, info, body⟩ := planned
  cases body with
  | data bytes =>
    have type : entry.type = typeProgramBits := placed.type
    rw [relocations?, type, if_neg (by decide), PlannedSection.entries]
  | relocations entries =>
    have type : entry.type = typeRelocation := placed.type
    have data : entry.data? file = some (entries.flatMap (·.toBytes order)) :=
      placed.data? (show typeRelocation ≠ typeNoBits by decide)
    have length : (entries.flatMap (·.toBytes order)).length = entries.length * relocationSize :=
      Bytes.length_flatMap (Relocation.length_toBytes order) entries
    have whole : entries.length * relocationSize % relocationSize = 0 := Nat.mul_mod_left _ _
    have count : entries.length * relocationSize / relocationSize = entries.length :=
      Nat.mul_div_cancel _ (by decide)
    rw [relocations?, if_pos type, entries?_of_data? data, length, if_pos ⟨whole, placed.aligned⟩,
      count, Bytes.pieces_flatMap (Relocation.length_toBytes order), Option.map_some, List.map_map]
    have same : ∀ relocation ∈ entries,
        (Relocation.ofBytes order ∘ (·.toBytes order)) relocation = id relocation :=
      fun relocation present => Relocation.ofBytes_toBytes order (small relocation present)
    rw [List.map_congr_left same, List.map_id, PlannedSection.entries]

/-- A planned section is found in the image, unless it is empty. -/
theorem Plan.Fits.scanSection_planned (fits : plan.Fits order) {table : SectionTable}
    (read : SectionTable.parse (plan.header order) (plan.layout order) = .ok table)
    {planned : PlannedSection} (found : plan.sections[number]? = some planned) :
    ((table.headers[number + 1]?).bind fun entry =>
      (scanSection order (plan.layout order) table (number + 1) entry).1) =
      planned.section? order (number + 1) := by
  have isPart := @Plan.getElem?_parts order plan number planned found
  obtain ⟨entry, isEntry, placed, name⟩ := fits.exists_placed read isPart
  have notEmpty := (fits.named_part isPart).1
  have inFile := (Plan.type_part_ne isPart).1
  have present := List.mem_of_getElem? found
  rw [isEntry, Option.bind_some, placed.scanSection inFile name notEmpty,
    PlannedSection.relocations?_part placed (fits.relocations planned present)]
  obtain ⟨_, flags, info, body⟩ := planned
  cases body with
  | data bytes => rfl
  | relocations entries =>
    have isEmpty : entries.flatMap (·.toBytes order) = [] ↔ entries = [] := by
      rw [← List.length_eq_zero_iff, Bytes.length_flatMap (Relocation.length_toBytes order),
        Nat.mul_eq_zero, List.length_eq_zero_iff]
      exact or_iff_left (by decide)
    rw [PlannedSection.section?]
    dsimp only
    simp only [← isEmpty]
    rfl

/-- Behind the planned sections there are tables. -/
theorem Plan.Fits.scanSection_table (fits : plan.Fits order) {table : SectionTable}
    (read : SectionTable.parse (plan.header order) (plan.layout order) = .ok table)
    {found : Section}
    (scanned : ((table.headers[number + 1]?).bind fun entry =>
      (scanSection order (plan.layout order) table (number + 1) entry).1) = some found)
    (behind : plan.sections.length ≤ number) : found.name ∈ tableNames := by
  obtain ⟨entry, isEntry, scanned⟩ := Option.bind_eq_some_iff.mp scanned
  have inside : number < (plan.parts order).length := by
    have inTable := (List.getElem?_eq_some_iff.mp isEntry).1
    rw [fits.headers_eq read, Plan.headers, List.length_cons, length_tableHeaders] at inTable
    exact Nat.lt_of_succ_lt_succ inTable
  have isPart := List.getElem?_eq_getElem inside
  generalize (plan.parts order)[number] = part at isPart
  obtain ⟨other, isOther, placed, name⟩ := fits.exists_placed read isPart
  obtain rfl := Option.some.inj (isEntry.symm.trans isOther)
  rw [placed.scanSection (Plan.type_part_ne isPart).1 name (fits.named_part isPart).1] at scanned
  rcases Plan.planned_or_table isPart with ⟨planned, isPlanned, _⟩ | ⟨_, isTable, _⟩
  · exact absurd (List.getElem?_eq_some_iff.mp isPlanned).1 (Nat.not_lt.mpr behind)
  · split at scanned
    · cases scanned
    · obtain ⟨_, _, rfl⟩ := Option.map_eq_some_iff.mp scanned
      exact isTable

/-! ## Symbols -/

namespace Plan

/-- Each symbol behind the offset of its name. -/
def symbolRows (plan : Plan) : List (Nat × Symbol) :=
  (stringStarts 1 (plan.symbols.map (·.name))).zip plan.symbols

/-- The part with the symbols. -/
def symbolPart (order : ByteOrder) (plan : Plan) : Part where
  name := ".symtab"
  type := typeSymbolTable
  flags := 0
  link := plan.symbolTable + 1
  info := 1
  entrySize := symbolSize
  data := zeros symbolSize ++ plan.symbolRows.flatMap fun row => row.2.toBytes order row.1

/-- The part with the names of the symbols. -/
def symbolNamePart (plan : Plan) : Part := stringPart ".strtab" (plan.symbols.map (·.name))

theorem parts_symbols (present : plan.symbols ≠ []) :
    plan.parts order = plan.sections.map (·.part order plan.symbolTable) ++
      [plan.symbolPart order, plan.symbolNamePart,
        stringPart ".shstrtab" (plan.partNames order)] := by
  rw [parts_eq, namedParts, symbolParts, if_neg present, List.append_assoc]
  rfl

theorem getElem?_parts_symbols (present : plan.symbols ≠ []) :
    (plan.parts order)[plan.sections.length]? = some (plan.symbolPart order) ∧
      (plan.parts order)[plan.sections.length + 1]? = some plan.symbolNamePart := by
  have behind (place : Nat) : (plan.parts order)[plan.sections.length + place]? =
      [plan.symbolPart order, plan.symbolNamePart,
        stringPart ".shstrtab" (plan.partNames order)][place]? := by
    rw [parts_symbols present, List.getElem?_append_right (by simp), List.length_map,
      Nat.add_sub_cancel_left]
  exact ⟨behind 0, behind 1⟩

/-- Without symbols there is no symbol table. -/
theorem countP_symbolTables (order : ByteOrder) (plan : Plan) :
    ((plan.headers order).drop 1).countP (·.type == typeSymbolTable) = 0 ↔
      plan.symbols = [] := by
  have types : ((plan.headers order).drop 1).countP (·.type == typeSymbolTable) =
      (plan.parts order).countP (·.type == typeSymbolTable) := by
    have counts := congrArg (List.countP (· == typeSymbolTable))
      (map_type_tableHeaders (plan.parts order))
    rwa [List.countP_map, List.countP_map] at counts
  rw [types, List.countP_eq_zero]
  constructor
  · intro none
    refine Decidable.byContradiction fun present => ?_
    exact none _ (List.mem_of_getElem? (getElem?_parts_symbols present).1) rfl
  · intro absent part member
    obtain ⟨number, found⟩ := List.mem_iff_getElem?.mp member
    rcases planned_or_table found with ⟨planned, _, rfl⟩ | ⟨_, _, ⟨_, present⟩ | strings⟩
    · rw [beq_iff_eq]
      exact planned.type_part_ne _ _ (by decide) (by decide)
    · exact absurd absent present
    · rw [strings]
      decide

/-- The symbol table has the number behind the planned sections. -/
theorem findIdx?_symbolTable (present : plan.symbols ≠ []) :
    (plan.headers order).findIdx? (·.type == typeSymbolTable) =
      some (plan.sections.length + 1) := by
  have types : (plan.headers order).map (·.type) =
      (0 :: plan.sections.map fun planned => (planned.part order plan.symbolTable).type) ++
        [typeSymbolTable, typeStringTable, typeStringTable] := by
    rw [headers, List.map_cons, map_type_tableHeaders, parts_symbols present, List.map_append,
      List.map_map]
    rfl
  have planned : (0 :: plan.sections.map fun planned =>
      (planned.part order plan.symbolTable).type).findIdx? (· == typeSymbolTable) = none := by
    rw [List.findIdx?_eq_none_iff, List.forall_mem_cons]
    refine ⟨by decide, fun type member => ?_⟩
    obtain ⟨planned, _, rfl⟩ := List.mem_map.mp member
    exact beq_false_of_ne (planned.type_part_ne _ _ (by decide) (by decide))
  have behind : [typeSymbolTable, typeStringTable, typeStringTable].findIdx?
      (· == typeSymbolTable) = some 0 := rfl
  have found := congrArg (List.findIdx? (· == typeSymbolTable)) types
  rw [List.findIdx?_map, List.findIdx?_append, planned, behind, List.length_cons, List.length_map,
    Option.none_or, Option.map_some, Nat.zero_add] at found
  exact found

/-- The strings of the symbol table are in the part behind it. -/
theorem Fits.linkedStrings_layout (fits : plan.Fits order) (present : plan.symbols ≠ []) :
    ∃ start, HasAt (plan.layout order) start (stringBytes (plan.symbols.map (·.name))) ∧
      linkedStrings (plan.headers order) (plan.sections.length + 2) = .ok (some
        ⟨start, start + (stringBytes (plan.symbols.map (·.name))).length⟩) := by
  obtain ⟨_, entry, _, isEntry, placed, _⟩ :=
    fits.exists_entry (getElem?_parts_symbols present).2
  have type : entry.type = typeStringTable := placed.type
  have size : entry.size.toNat = (stringBytes (plan.symbols.map (·.name))).length := placed.size
  have ends : ¬ UInt64.size ≤
      entry.offset.toNat + (stringBytes (plan.symbols.map (·.name))).length :=
    fits.not_le_end placed
  refine ⟨entry.offset.toNat, placed.has, ?_⟩
  rw [linkedStrings, if_neg (Nat.succ_ne_zero _), isEntry]
  dsimp only
  rw [if_neg (not_not_intro type), size, if_neg ends]

theorem sectionNumbersReadable_layout (order : ByteOrder) (plan : Plan) (file : Bytes)
    (number : Nat) : sectionNumbersReadable (plan.headers order) file number := by
  rw [sectionNumbersReadable, List.all_eq_true]
  have other : ∀ entry ∈ plan.headers order, entry.type ≠ typeSymbolSections := by
    rw [headers, List.forall_mem_cons]
    refine ⟨by decide, fun entry member => ?_⟩
    have type : entry.type ∈ (plan.parts order).map (·.type) := by
      rw [← map_type_tableHeaders]
      exact List.mem_map_of_mem member
    obtain ⟨part, isPart, same⟩ := List.mem_map.mp type
    obtain ⟨place, found⟩ := List.mem_iff_getElem?.mp isPart
    rw [← same]
    exact (type_part_ne found).2
  intro entry member
  rw [bne_iff_ne.mpr (other entry member)]
  rfl

/-- The symbol table is cut into the empty symbol and the planned ones. -/
theorem entries?_symbolPart {file : Bytes} {entry : SectionHeader}
    (placed : (plan.symbolPart order).IsPlaced file entry) :
    entry.entries? file symbolSize 8 =
      some (zeros symbolSize :: plan.symbolRows.map fun row => row.2.toBytes order row.1) := by
  have each (row : Nat × Symbol) : (row.2.toBytes order row.1).length = symbolSize :=
    Symbol.length_toBytes _ _ _
  have data := placed.data? (show typeSymbolTable ≠ typeNoBits by decide)
  have length : (plan.symbolPart order).data.length =
      (plan.symbolRows.length + 1) * symbolSize := by
    rw [symbolPart]
    dsimp only
    rw [List.length_append, length_zeros, Bytes.length_flatMap each, Nat.succ_mul, Nat.add_comm]
  have pieces :=
    Bytes.pieces_append_flatMap_append each (length_zeros symbolSize) plan.symbolRows []
  rw [List.append_nil] at pieces
  rw [entries?_of_data? data, length, Nat.mul_mod_left, if_pos ⟨rfl, placed.aligned⟩,
    Nat.mul_div_cancel _ (by decide), symbolPart, pieces]

/-- With the table of their names at hand, the planned symbols are read as they were written. -/
theorem Fits.ofBytes_symbols (fits : plan.Fits order) {start : Nat}
    (has : HasAt (plan.layout order) start (stringBytes (plan.symbols.map (·.name)))) :
    plan.symbolRows.map (fun row => Symbol.ofBytes order (plan.layout order)
        (some ⟨start, start + (stringBytes (plan.symbols.map (·.name))).length⟩)
        (row.2.toBytes order row.1)) = plan.symbols := by
  have snds : plan.symbolRows.map Prod.snd = plan.symbols := List.map_snd_zip (by simp)
  refine Eq.trans (List.map_congr_left ?_) snds
  rintro ⟨nameStart, symbol⟩ member
  obtain ⟨place, found⟩ := List.mem_iff_getElem?.mp member
  obtain ⟨isStart, isSymbol⟩ := List.getElem?_zip_eq_some.mp found
  have present := List.mem_of_getElem? isSymbol
  have isName : (plan.symbols.map (·.name))[place]? = some symbol.name := by
    rw [List.getElem?_map, isSymbol]
    rfl
  have string := hasAt_stringBytes isStart isName
  have noNul := Utf8.zero_notMem_encode (fits.symbolNames symbol present)
  exact Symbol.ofBytes_toBytes order (fits.symbolSections symbol present)
    (fits.stringOffset_lt has string) (StringTable.get?_of_hasAt has string noNul)

/-- The symbols are read as they were planned. -/
theorem Fits.symbols_layout (fits : plan.Fits order) (present : plan.symbols ≠ []) :
    Elf.symbols order (plan.headers order) (plan.layout order) =
      .ok (⟨"", 0, 0⟩ :: plan.symbols) := by
  obtain ⟨_, entry, _, isEntry, placed, _⟩ :=
    fits.exists_entry (getElem?_parts_symbols present).1
  obtain ⟨start, has, strings⟩ := fits.linkedStrings_layout present
  have few := fits.few
  have link : entry.link.toNat = plan.sections.length + 2 := by
    have number : plan.symbolTable = plan.sections.length + 1 := if_neg present
    rw [placed.link]
    change (UInt32.ofNat (plan.symbolTable + 1)).toNat = _
    rw [number]
    exact UInt32.toNat_ofNat_of_lt' (by change _ < 4294967296; omega)
  have unnamed : HasAt (stringBytes (plan.symbols.map (·.name))) 0 ([] ++ [0]) := ⟨[], _, rfl, rfl⟩
  have noName := StringTable.get?_of_hasAt has unnamed List.not_mem_nil
  rw [Elf.symbols, findIdx?_symbolTable present]
  dsimp only
  rw [isEntry]
  dsimp only
  rw [entries?_symbolPart placed, link]
  dsimp only
  rw [strings]
  dsimp only
  rw [if_pos (sectionNumbersReadable_layout order plan _ _), List.map_cons, List.map_map,
    Symbol.ofBytes_zeros order _ noName]
  exact congrArg (fun symbols => Except.ok (_ :: symbols)) (fits.ofBytes_symbols has)

theorem Fits.objectSymbols_layout (fits : plan.Fits order) :
    (objectSymbols order (plan.layout order) (plan.headers order)).1 = .ok plan.tableSymbols := by
  rw [objectSymbols]
  by_cases absent : plan.symbols = []
  · rw [if_pos ((countP_symbolTables order plan).mpr absent), tableSymbols, if_pos absent]
  · rw [if_neg fun zero => absent ((countP_symbolTables order plan).mp zero),
      fits.symbols_layout absent, tableSymbols, if_neg absent]

end Plan

/-! ## The whole object -/

/-- An object is read as it was laid out, in either byte order: the image has that byte order, and
under each number the section that was planned there, if it is not empty. Nothing else is in it but
the tables behind the planned sections. The symbols are the planned ones behind an empty one. -/
theorem Image.parse_layout (fits : plan.Fits order) :
    ∃ image, (parse (plan.layout order)).1 = .ok image ∧ image.order = order ∧
      image.section? 0 = none ∧
      (∀ place planned, plan.sections[place]? = some planned →
        image.section? (place + 1) = planned.section? order (place + 1)) ∧
      (∀ part ∈ image.sections, plan.sections.length < part.number → part.name ∈ tableNames) ∧
      image.symbols = plan.tableSymbols := by
  obtain ⟨_, _, readTable⟩ := fits.table_layout
  obtain ⟨image, parsed, isOrder, isSymbols, slots⟩ :=
    exists_image (Plan.header_layout order plan) readTable fits.objectSymbols_layout
  refine ⟨image, parsed, isOrder, ?_, ?_, ?_, isSymbols⟩
  · rw [section?, slots]
    rfl
  · intro place planned found
    rw [section?_of_slots slots (Nat.succ_ne_zero place)]
    exact fits.scanSection_planned readTable found
  · intro part present behind
    obtain ⟨place, same⟩ := Nat.exists_eq_succ_of_ne_zero (Nat.ne_of_gt (Nat.zero_lt_of_lt behind))
    have found := section?_eq_some_iff.mpr ⟨present, rfl⟩
    rw [same, section?_of_slots slots (Nat.succ_ne_zero place)] at found
    exact fits.scanSection_table readTable found (Nat.le_of_lt_succ (same ▸ behind))

/-! ### An object with a section of each kind -/

/-- A program, an empty section, the relocations of the program, and a map that the symbol names. -/
def smallPlan : Plan where
  sections := [
    ⟨"xdp/größe", 6, 0, .data [0x95, 0, 0, 0, 0, 0, 0, 0]⟩,
    ⟨".text", 6, 0, .data []⟩,
    ⟨".relxdp/größe", 0, 1, .relocations [⟨0, 1⟩]⟩,
    ⟨"maps", 3, 7, .data [1, 2, 3]⟩]
  symbols := [⟨"zähler", 4, 20⟩]

/-- Written with the most significant byte first, the object is read as it was planned. -/
theorem Image.parse_layout_smallPlan :
    smallPlan.Fits .big ∧ ∃ image, (parse (smallPlan.layout .big)).1 = .ok image ∧
      image.order = .big ∧
      image.section? 1 = some ⟨1, "xdp/größe", 1, 0, [0x95, 0, 0, 0, 0, 0, 0, 0], []⟩ ∧
      image.section? 2 = none ∧
      image.section? 3 = some ⟨3, ".relxdp/größe", 9, 1,
        [0, 0, 0, 0, 0, 0, 0, 0, 0, 0, 0, 1, 0, 0, 0, 1], [⟨0, 1⟩]⟩ ∧
      image.section? 4 = some ⟨4, "maps", 1, 7, [1, 2, 3], []⟩ ∧
      image.symbols = some [⟨"", 0, 0⟩, ⟨"zähler", 4, 20⟩] := by
  have fits : smallPlan.Fits .big := by
    constructor
    all_goals decide +kernel
  obtain ⟨image, parsed, order, _, sections, _, symbols⟩ := parse_layout fits
  exact ⟨fits, image, parsed, order, sections 0 _ rfl, sections 1 _ rfl, sections 2 _ rfl,
    sections 3 _ rfl, symbols⟩

end ProbeStream.Elf
