import Mathlib.Tactic.NthRewrite
import ProbeStream.Elf.Layout
import ProbeStream.Proofs.Text.Utf8
import ProbeStream.Proofs.Words

/-!
# What stands where in a layout

The pieces of a layout are found again at the offsets that the file header, the section table and
the tables of strings give for them (`Bytes.HasAt`).

Entries of fixed size are read as they were written: section headers, relocations and symbols.
-/

namespace ProbeStream

namespace Elf

open Bytes (HasAt)

/-! ## Entries -/

theorem length_zeros (count : Nat) : (zeros count).length = count := List.length_replicate

theorem SectionHeader.ofBytes_toBytes (order : ByteOrder) (entrySize : Nat)
    (header : SectionHeader) : ofBytes order (header.toBytes order entrySize) = header := by
  -- the whole in which the fields are found stays folded, the piece is opened
  have name := HasAt.whole (header.toBytes order entrySize)
  nth_rewrite 2 [toBytes] at name
  simp only [List.append_assoc] at name
  have type := name.append_right (order.length_u32 _)
  have flags := type.append_right (order.length_u32 _)
  have address := flags.append_right (order.length_u64 _)
  have offset := address.append_right (length_zeros 8)
  have size := offset.append_right (order.length_u64 _)
  have link := size.append_right (order.length_u64 _)
  have info := link.append_right (order.length_u32 _)
  rw [ofBytes]
  congr 1
  · exact name.append_left.u32At.trans UInt32.ofNat_toNat
  · exact type.append_left.u32At.trans UInt32.ofNat_toNat
  · exact flags.append_left.u64At.trans UInt64.ofNat_toNat
  · exact offset.append_left.u64At.trans UInt64.ofNat_toNat
  · exact size.append_left.u64At.trans UInt64.ofNat_toNat
  · exact link.append_left.u32At.trans UInt32.ofNat_toNat
  · exact info.append_left.u32At.trans UInt32.ofNat_toNat

/-- The entry of the section table for number zero. -/
def SectionHeader.empty : SectionHeader := ⟨0, 0, 0, 0, 0, 0, 0⟩

theorem SectionHeader.ofBytes_zeros (order : ByteOrder) :
    ofBytes order (zeros sectionHeaderSize) = empty := by
  cases order <;> rfl

theorem Relocation.ofBytes_toBytes (order : ByteOrder) {entry : Relocation}
    (small : entry.symbol < UInt32.size) : ofBytes order (entry.toBytes order) = entry := by
  have offset := HasAt.whole (entry.toBytes order)
  nth_rewrite 2 [toBytes] at offset
  have info := offset.append_right (order.length_u64 _)
  have symbol : (order.u64At (entry.toBytes order) 8).toNat =
      entry.symbol * UInt32.size + relocationType := by
    have bound : entry.symbol * UInt32.size + relocationType < 2 ^ 64 := by
      change entry.symbol < 4294967296 at small
      change entry.symbol * 4294967296 + 1 < 18446744073709551616
      omega
    rw [show order.u64At (entry.toBytes order) 8 = _ from info.u64At, UInt64.toNat_ofNat',
      Nat.mod_eq_of_lt bound]
  rw [ofBytes, symbol, show order.u64At (entry.toBytes order) 0 = _ from offset.append_left.u64At,
    UInt64.ofNat_toNat]
  congr 1
  change (entry.symbol * 4294967296 + 1) / 4294967296 = entry.symbol
  omega

/-- A symbol is read as it was written, if its name is. -/
theorem Symbol.ofBytes_toBytes (order : ByteOrder) {file : Bytes} {names : StringTable}
    {start : Nat} {symbol : Symbol} (small : symbol.sectionNumber < UInt16.size)
    (inside : start < UInt32.size)
    (named : names.get? file start = some (Utf8.encode symbol.name)) :
    ofBytes order file (some names) (symbol.toBytes order start) = symbol := by
  have name := HasAt.whole (symbol.toBytes order start)
  nth_rewrite 2 [toBytes] at name
  simp only [List.append_assoc] at name
  have kind := name.append_right (order.length_encode 4 start)
  have number := kind.append_right (rfl : [globalObject, 0].length = 2)
  have value := number.append_right (order.length_encode 2 _)
  have nameStart : (order.u32At (symbol.toBytes order start) 0).toNat = start := by
    rw [show order.u32At (symbol.toBytes order start) 0 = _ from name.append_left.u32At]
    exact UInt32.toNat_ofNat_of_lt' inside
  have sectionNumber : (order.u16At (symbol.toBytes order start) 6).toNat =
      symbol.sectionNumber := by
    rw [show order.u16At (symbol.toBytes order start) 6 = _ from number.append_left.u16At]
    exact UInt16.toNat_ofNat_of_lt' small
  have valueAt : order.u64At (symbol.toBytes order start) 8 = symbol.value :=
    value.append_left.u64At.trans UInt64.ofNat_toNat
  rw [ofBytes, nameStart, sectionNumber, valueAt, Option.bind_some, named, Option.map_some,
    Utf8.decodeLossy_encode, Option.getD_some]

/-- The first symbol is empty. -/
theorem Symbol.ofBytes_zeros (order : ByteOrder) (file : Bytes) {names : StringTable}
    (named : names.get? file 0 = some []) :
    ofBytes order file (some names) (zeros symbolSize) = ⟨"", 0, 0⟩ := by
  have nameStart : order.u32At (zeros symbolSize) 0 = 0 := by cases order <;> rfl
  have sectionNumber : order.u16At (zeros symbolSize) 6 = 0 := by cases order <;> rfl
  have value : order.u64At (zeros symbolSize) 8 = 0 := by cases order <;> rfl
  have noName : Utf8.decodeLossy [] = "" := Utf8.decodeLossy_encode ""
  rw [ofBytes, nameStart, sectionNumber, value, Option.bind_some, UInt32.toNat_zero, named,
    Option.map_some, noName]
  rfl

/-! ## Strings -/

/-- A string in a table is found by its offset. -/
theorem StringTable.get?_of_hasAt {file table text : Bytes} {start offset : Nat}
    (placed : HasAt file start table) (has : HasAt table offset (text ++ [0]))
    (noNul : (0 : UInt8) ∉ text) :
    StringTable.get? ⟨start, start + table.length⟩ file offset = some text := by
  obtain ⟨before, after, rfl, rfl⟩ := has
  have rest : HasAt file (start + before.length) (text ++ 0 :: after) :=
    placed.trans ⟨before, [], by simp, rfl⟩
  have length : start + (before ++ (text ++ [0]) ++ after).length - (start + before.length) =
      (text ++ 0 :: after).length := by
    simp only [List.length_append, List.length_cons, List.length_nil]
    omega
  have ends : Bytes.beforeNul (text ++ 0 :: after) = text := by
    rw [Bytes.beforeNul, List.takeWhile_append_of_pos, List.takeWhile_cons_of_neg (by simp),
      List.append_nil]
    intro byte present
    rw [bne_iff_ne]
    rintro rfl
    exact noNul present
  rw [get?, if_pos ⟨by simp, placed.fits⟩]
  dsimp only
  rw [length, rest.slice_eq, if_pos (by simp), ends]

theorem hasAt_stringStarts {bytes : Bytes} {start : Nat} {strings : List String}
    (has : HasAt bytes start (strings.flatMap fun text => Utf8.encode text ++ [0]))
    {place offset : Nat} {text : String}
    (found : (stringStarts start strings)[place]? = some offset)
    (isText : strings[place]? = some text) : HasAt bytes offset (Utf8.encode text ++ [0]) := by
  -- the strings behind the first one start where it ends
  induction strings generalizing start place with
  | nil => cases isText
  | cons first rest ih =>
    rw [List.flatMap_cons] at has
    cases place with
    | zero =>
      cases found
      cases isText
      exact has.append_left
    | succ place =>
      have size : (Utf8.encode first ++ [0]).length = Utf8.size first + 1 := by
        rw [List.length_append, Utf8.size]
        rfl
      exact ih (has.append_right size) found isText

/-- The strings of a table stand at the offsets that are given for them. -/
theorem hasAt_stringBytes {strings : List String} {place offset : Nat} {text : String}
    (found : (stringStarts 1 strings)[place]? = some offset)
    (isText : strings[place]? = some text) :
    HasAt (stringBytes strings) offset (Utf8.encode text ++ [0]) := by
  have table := HasAt.whole (stringBytes strings)
  nth_rewrite 2 [stringBytes] at table
  rw [← List.singleton_append] at table
  exact hasAt_stringStarts (table.append_right rfl) found isText

/-! ## Places -/

theorem le_alignUp (offset : Nat) : offset ≤ alignUp offset := by
  rw [alignUp]
  omega

/-- Every run of bytes stands at its place, which is a multiple of eight. -/
theorem hasAt_places {bytes : Bytes} {offset : Nat} {runs : List Bytes}
    (has : HasAt bytes offset (placed offset runs)) {number place : Nat} {run : Bytes}
    (found : (places offset runs)[number]? = some place) (isRun : runs[number]? = some run) :
    HasAt bytes place run ∧ place % 8 = 0 := by
  induction runs generalizing offset number with
  | nil => cases isRun
  | cons first rest ih =>
    rw [placed, List.append_assoc] at has
    have aligned := has.append_right (length_zeros _)
    rw [Nat.add_sub_cancel' (le_alignUp offset)] at aligned
    cases number with
    | zero =>
      cases found
      cases isRun
      exact ⟨aligned.append_left, mod_alignUp offset⟩
    | succ number => exact ih (aligned.append_right rfl) found isRun

/-- The runs of bytes end at a multiple of eight. -/
theorem mod_length_placed (offset : Nat) (runs : List Bytes) :
    (offset + (placed offset runs).length) % 8 = 0 := by
  have padding (offset : Nat) : offset + (zeros (alignUp offset - offset)).length =
      alignUp offset := by
    rw [length_zeros, Nat.add_sub_cancel' (le_alignUp offset)]
  induction runs generalizing offset with
  | nil =>
    rw [placed, padding]
    exact mod_alignUp offset
  | cons first rest ih =>
    rw [placed, List.length_append, List.length_append, ← Nat.add_assoc, ← Nat.add_assoc, padding]
    exact ih _

/-! ## The section table -/

/-- Each part with the offset of its name and its place. -/
def tableRows (parts : List Part) : List (Part × Nat × Nat) :=
  parts.zip ((stringStarts 1 (parts.map (·.name))).zip (places headerSize (parts.map (·.data))))

/-- The bytes of a row in the section table. -/
def rowBytes (order : ByteOrder) (row : Part × Nat × Nat) : Bytes :=
  (row.1.header row.2.1 row.2.2).toBytes order row.1.entrySize

theorem length_rowBytes (order : ByteOrder) (row : Part × Nat × Nat) :
    (rowBytes order row).length = sectionHeaderSize := SectionHeader.length_toBytes _ _ _

theorem tableBytes_eq (order : ByteOrder) (parts : List Part) :
    tableBytes order parts = (tableRows parts).flatMap (rowBytes order) := rfl

/-- The entries of the section table behind the empty one. -/
def tableHeaders (parts : List Part) : List SectionHeader :=
  (tableRows parts).map fun (part, name, place) => part.header name place

theorem length_tableRows (parts : List Part) : (tableRows parts).length = parts.length := by
  simp [tableRows]

theorem length_tableHeaders (parts : List Part) : (tableHeaders parts).length = parts.length := by
  rw [tableHeaders, List.length_map, length_tableRows]

theorem map_type_tableHeaders (parts : List Part) :
    (tableHeaders parts).map (·.type) = parts.map (·.type) := by
  have fsts : (tableRows parts).map Prod.fst = parts := List.map_fst_zip (by simp)
  rw [tableHeaders, List.map_map]
  exact (List.map_map.symm.trans (congrArg (List.map Part.type) fsts) :
    (tableRows parts).map (Part.type ∘ Prod.fst) = _)

theorem getElem?_tableHeaders {parts : List Part} {number : Nat} {part : Part}
    (found : parts[number]? = some part) :
    ∃ name place, (stringStarts 1 (parts.map (·.name)))[number]? = some name ∧
      (places headerSize (parts.map (·.data)))[number]? = some place ∧
      (tableHeaders parts)[number]? = some (part.header name place) := by
  obtain ⟨inside, _⟩ := List.getElem?_eq_some_iff.mp found
  have name := List.getElem?_eq_getElem (l := stringStarts 1 (parts.map (·.name))) (i := number)
    (by simpa using inside)
  have place := List.getElem?_eq_getElem (l := places headerSize (parts.map (·.data)))
    (i := number) (by simpa using inside)
  refine ⟨_, _, name, place, ?_⟩
  rw [tableHeaders, List.getElem?_map, Option.map_eq_some_iff]
  exact ⟨(part, _, _), List.getElem?_zip_eq_some.mpr
    ⟨found, List.getElem?_zip_eq_some.mpr ⟨name, place⟩⟩, rfl⟩

/-- The section table is read as it was written. -/
theorem headersAt?_of_hasAt {header : Header} {file : Bytes} {parts : List Part}
    (has : HasAt file header.tableOffset.toNat
      (zeros sectionHeaderSize ++ tableBytes header.order parts))
    (aligned : header.tableOffset.toNat % 8 = 0) :
    headersAt? header file (parts.length + 1) =
      some (SectionHeader.empty :: tableHeaders parts) := by
  rw [tableBytes_eq] at has
  have fits := has.fits
  rw [List.length_append, length_zeros, Bytes.length_flatMap (length_rowBytes header.order),
    length_tableRows, Nat.add_comm sectionHeaderSize, ← Nat.succ_mul] at fits
  obtain ⟨after, rest⟩ := has.drop_eq
  have pieces := Bytes.pieces_append_flatMap_append (length_rowBytes header.order)
    (length_zeros sectionHeaderSize) (tableRows parts) after
  rw [length_tableRows] at pieces
  unfold headersAt?
  rw [if_pos ⟨fits, aligned⟩, rest, pieces, List.map_cons, SectionHeader.ofBytes_zeros,
    List.map_map, tableHeaders]
  refine congrArg (fun entries => some (SectionHeader.empty :: entries)) ?_
  exact List.map_congr_left fun row _ => SectionHeader.ofBytes_toBytes _ _ _

/-! ## The file header -/

/-- The file header is read as it was written. -/
theorem Header.parse_of_hasAt {order : ByteOrder} {file : Bytes}
    {tableOffset entryCount nameTable : Nat}
    (has : HasAt file 0 (headerBytes order tableOffset entryCount nameTable)) :
    Header.parse file = .ok {
      order
      tableOffset := UInt64.ofNat tableOffset
      entrySize := UInt16.ofNat sectionHeaderSize
      entryCount := UInt16.ofNat entryCount
      nameTable := UInt16.ofNat nameTable } := by
  have fits := has.fits
  rw [length_headerBytes] at fits
  rw [headerBytes] at has
  simp only [List.append_assoc] at has
  have identity := has.append_right (rfl : magic.length = 5)
  have padding := identity.append_right (rfl : [encodingByte order, 1, 0].length = 3)
  have type := padding.append_right (length_zeros 8)
  have machine := type.append_right (order.length_encode 2 _)
  have version := machine.append_right (order.length_encode 2 _)
  have entry := version.append_right (order.length_encode 4 _)
  have table := entry.append_right (length_zeros 16)
  have flags := table.append_right (order.length_encode 8 _)
  have size := flags.append_right (length_zeros 4)
  have programs := size.append_right (order.length_encode 2 _)
  have entrySize := programs.append_right (length_zeros 4)
  have entryCount := entrySize.append_right (order.length_encode 2 _)
  have nameTable := entryCount.append_right (order.length_encode 2 _)
  have magic : file.take 5 = magic := has.append_left.slice_eq
  have encoding : file[5]? = some (encodingByte order) :=
    identity.append_left.getElem?_eq (show 0 < 3 by decide)
  have one : file[6]? = some 1 := identity.append_left.getElem?_eq (show 1 < 3 by decide)
  have known : byteOrder? (encodingByte order) = some order := by cases order <;> rfl
  rw [parse, if_neg (Nat.not_lt.mpr (by simpa using fits)), if_pos ⟨magic, one⟩, encoding,
    Option.bind_some, known]
  dsimp only
  rw [show order.u64At file 40 = _ from table.append_left.u64At,
    show order.u16At file 58 = _ from entrySize.append_left.u16At,
    show order.u16At file 60 = _ from entryCount.append_left.u16At,
    show order.u16At file 62 = _ from nameTable.u16At]

end Elf

end ProbeStream
