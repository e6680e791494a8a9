import ProbeStream.Load.Object
import ProbeStream.Proofs.Bpf.Relocation

/-!
# All entries or none

The entries of a relocation section are checked one after the other, and only then is the first
patch written. So there are two ways for it to end (`relocate_allOrNothing`):

- every entry is good. Then each of them is written, and nothing else of the program changes;
- some entry is bad. Then the complaint is about the first bad one, and about the first thing that
  is wrong with it. No patch is written, and the load goes on with the image as it was.

Whether an entry is good is a matter of the program as it was, also if an earlier entry is for the
same instruction: no patch changes an operation.
-/

namespace ProbeStream

namespace Bpf

section

variable {order : ByteOrder} {program data : Bytes} {symbols : List Elf.Symbol} {maps : MapTable}
  {entry : Elf.Relocation} {entries : List Elf.Relocation} {fault : RelocationFault}

/-! ## Good entries and bad ones -/

/-- The entry points at an instruction of the program that loads a constant, and at a symbol whose
value gives a map. -/
structure Resolvable (program : Bytes) (symbols : List Elf.Symbol) (maps : MapTable)
    (entry : Elf.Relocation) : Prop where
  inside : entry.offset.toNat / instructionSize < program.length / instructionSize
  loads : program[entry.offset.toNat / instructionSize * instructionSize]? = some loadConstant
  defined : ∃ symbol, symbols[entry.symbol]? = some symbol ∧
    ∃ map, maps.get? (mapIndex symbol) = some map

/-- What is wrong with an entry, if all that is checked earlier is right. -/
inductive Complaint (program : Bytes) (symbols : List Elf.Symbol) (maps : MapTable)
    (entry : Elf.Relocation) : RelocationFault → Prop
  | pastEnd :
      program.length / instructionSize ≤ entry.offset.toNat / instructionSize →
      Complaint program symbols maps entry
        (.pastEnd entry.offset (program.length / instructionSize))
  | notConstant {operation : UInt8} :
      entry.offset.toNat / instructionSize < program.length / instructionSize →
      program[entry.offset.toNat / instructionSize * instructionSize]? = some operation →
      operation ≠ loadConstant →
      Complaint program symbols maps entry
        (.notConstant (entry.offset.toNat / instructionSize) operation)
  | noSymbol :
      entry.offset.toNat / instructionSize < program.length / instructionSize →
      program[entry.offset.toNat / instructionSize * instructionSize]? = some loadConstant →
      symbols[entry.symbol]? = none →
      Complaint program symbols maps entry (.noSymbol entry.symbol)
  | noMap {symbol : Elf.Symbol} :
      entry.offset.toNat / instructionSize < program.length / instructionSize →
      program[entry.offset.toNat / instructionSize * instructionSize]? = some loadConstant →
      symbols[entry.symbol]? = some symbol →
      maps.get? (mapIndex symbol) = none →
      Complaint program symbols maps entry (.noMap symbol.name (mapIndex symbol) maps.size)

theorem resolvable_iff :
    Resolvable program symbols maps entry ↔
      ∃ patch, resolveEntry program symbols maps entry = .ok patch := by
  constructor
  · rintro ⟨inside, loads, symbol, symbolFound, map, mapFound⟩
    exact ⟨⟨_, map.handle⟩, resolveEntry_eq_ok_iff.mpr
      ⟨inside, rfl, loads, symbol, map, symbolFound, mapFound, rfl⟩⟩
  · rintro ⟨patch, good⟩
    obtain ⟨inside, points, loads, symbol, map, symbolFound, mapFound, -⟩ :=
      resolveEntry_eq_ok_iff.mp good
    rw [Patch.Fits, points] at inside
    rw [points] at loads
    exact ⟨inside, loads, symbol, symbolFound, map, mapFound⟩

/-- Checking an entry stops at the first thing that is wrong with it. -/
theorem complaint_of_resolveEntry
    (bad : resolveEntry program symbols maps entry = .error fault) :
    Complaint program symbols maps entry fault := by
  rw [resolveEntry] at bad
  by_cases beyond :
      program.length / instructionSize ≤ entry.offset.toNat / instructionSize
  · rw [if_pos beyond] at bad
    cases bad
    exact .pastEnd beyond
  rw [if_neg beyond] at bad
  have inside := Nat.not_le.mp beyond
  have within : entry.offset.toNat / instructionSize * instructionSize < program.length := by
    simp only [instructionSize] at *
    omega
  rw [List.getElem?_eq_getElem within, Option.getD_some] at bad
  have found := List.getElem?_eq_getElem within
  by_cases operation :
      program[entry.offset.toNat / instructionSize * instructionSize] = loadConstant
  · rw [if_neg (not_not_intro operation)] at bad
    rw [operation] at found
    cases symbolFound : symbols[entry.symbol]? with
    | none =>
      simp only [symbolFound] at bad
      cases bad
      exact .noSymbol inside found symbolFound
    | some symbol =>
      cases mapFound : maps.get? (mapIndex symbol) with
      | none =>
        simp only [symbolFound, mapFound] at bad
        cases bad
        exact .noMap inside found symbolFound mapFound
      | some map =>
        simp only [symbolFound, mapFound] at bad
        cases bad
  · rw [if_pos operation] at bad
    cases bad
    exact .notConstant inside found operation

theorem resolveEntry_eq_error_iff :
    resolveEntry program symbols maps entry = .error fault ↔
      Complaint program symbols maps entry fault := by
  refine ⟨complaint_of_resolveEntry, fun complaint => ?_⟩
  rw [resolveEntry]
  cases complaint with
  | pastEnd beyond => exact if_pos beyond
  | notConstant inside found other => simp [Nat.not_le.mpr inside, found, other]
  | noSymbol inside found missing => simp [Nat.not_le.mpr inside, found, missing]
  | noMap inside found symbolFound missing =>
    simp [Nat.not_le.mpr inside, found, symbolFound, missing]

theorem Complaint.not_resolvable (complaint : Complaint program symbols maps entry fault) :
    ¬ Resolvable program symbols maps entry := by
  intro resolvable
  obtain ⟨patch, good⟩ := resolvable_iff.mp resolvable
  rw [resolveEntry_eq_error_iff.mpr complaint] at good
  cases good

/-! ## Good lists of entries and bad ones -/

/-- All entries are good if each of them is. -/
theorem exists_relocate_iff :
    (∃ result, relocate order program entries symbols maps = .ok result) ↔
      ∀ entry ∈ entries, Resolvable program symbols maps entry := by
  constructor
  · rintro ⟨⟨data, patches⟩, good⟩ entry member
    exact resolvable_iff.mpr
      (exists_resolveEntries_iff.mp ⟨patches, (relocate_eq_ok_iff.mp good).1⟩ entry member)
  · intro each
    obtain ⟨patches, checked⟩ := exists_resolveEntries_iff.mpr fun entry member =>
      resolvable_iff.mp (each entry member)
    exact ⟨_, relocate_eq_ok_iff.mpr ⟨checked, rfl⟩⟩

theorem relocate_eq_error_iff :
    relocate order program entries symbols maps = .error fault ↔
      resolveEntries program symbols maps entries = .error fault := by
  rw [relocate]
  cases resolveEntries program symbols maps entries <;> simp [Except.map]

/-- The complaint is about the first bad entry. -/
theorem resolveEntries_eq_error_iff :
    resolveEntries program symbols maps entries = .error fault ↔
      ∃ before entry after, entries = before ++ entry :: after ∧
        (∀ good ∈ before, Resolvable program symbols maps good) ∧
        Complaint program symbols maps entry fault := by
  induction entries with
  | nil => simp [resolveEntries]
  | cons first rest ih =>
    rw [resolveEntries]
    cases checked : resolveEntry program symbols maps first with
    | error other =>
      have bad := resolveEntry_eq_error_iff.mp checked
      constructor
      · rintro ⟨⟩
        exact ⟨[], first, rest, rfl, by simp, bad⟩
      · rintro ⟨before, entry, after, split, good, complaint⟩
        cases before with
        | nil =>
          cases split
          rw [resolveEntry_eq_error_iff.mpr complaint] at checked
          cases checked
          rfl
        | cons front others =>
          cases split
          exact absurd (good first List.mem_cons_self) bad.not_resolvable
    | ok patch =>
      -- a good entry only stands in front of the bad one
      have resolvable := resolvable_iff.mpr ⟨patch, checked⟩
      have behind : (resolveEntries program symbols maps rest).map (patch :: ·) = .error fault ↔
          resolveEntries program symbols maps rest = .error fault := by
        cases resolveEntries program symbols maps rest <;> simp [Except.map]
      refine behind.trans (ih.trans ⟨?_, ?_⟩)
      · rintro ⟨before, entry, after, rfl, good, complaint⟩
        exact ⟨first :: before, entry, after, rfl,
          List.forall_mem_cons.mpr ⟨resolvable, good⟩, complaint⟩
      · rintro ⟨before, entry, after, split, good, complaint⟩
        cases before with
        | nil =>
          cases split
          exact absurd resolvable complaint.not_resolvable
        | cons front others =>
          cases split
          exact ⟨others, entry, after, rfl, (List.forall_mem_cons.mp good).2, complaint⟩

end

end Bpf

/-! ## In the image -/

namespace Load

variable {σ : Type}

/-- A relocation section of an image has these entries for this program. -/
structure HasEntriesFor (image : Elf.Image) (relocation target : Elf.Section) (order : ByteOrder)
    (program : Bytes) (entries : List Elf.Relocation) (symbols : List Elf.Symbol) : Prop where
  ordered : image.order = order
  known : image.symbols = some symbols
  found : image.section? relocation.info.toNat = some target
  isProgram : Bpf.Category.isProgramSection target.name
  holds : target.data = program
  lists : relocation.relocations = entries

/-- With a bad entry the second pass goes on with the image as it was. -/
theorem attachRelocated_of_error (kernel : Kernel σ) (attacher : Attacher) {maps : Bpf.MapTable}
    {image : Elf.Image} {relocation target : Elf.Section} {order : ByteOrder} {program : Bytes}
    {entries : List Elf.Relocation} {symbols : List Elf.Symbol} {fault : Bpf.RelocationFault}
    (asked : HasEntriesFor image relocation target order program entries symbols)
    (bad : Bpf.relocate order program entries symbols maps = .error fault)
    (rest : List Elf.Section) (done : List Nat) (programs : List LoadedProgram) :
    attachRelocated kernel attacher maps (relocation :: rest) image done programs = (do
      skip target.name fault.message
      attachRelocated kernel attacher maps rest image
        (done ++ [relocation.number, relocation.info.toNat]) programs) := by
  obtain ⟨rfl, known, found, isProgram, rfl, rfl⟩ := asked
  rw [attachRelocated, found]
  dsimp only
  rw [if_pos isProgram, resolve, known]
  dsimp only
  rw [bad]
  dsimp only
  rw [bind_assoc]
  rfl

end Load

/-! ## Resolving a relocation section -/

namespace Bpf

/-- What resolving entries does, whatever the program, the entries, the symbols and the maps.

- It succeeds exactly if every entry points at an instruction of the program that loads a constant,
  and at a symbol whose value gives a map.
- Otherwise the complaint is about the first bad entry, and about the first thing that is wrong with
  it. The second pass then goes on with the image in which the program is as it was.
- If it succeeds, there is one patch for each entry. The bytes behind the last whole instruction are
  as they were, and so are the operations, the destination registers and the offset fields of all
  instructions. An instruction without an entry has all its bytes as they were; any other one has
  the map mark as its source register and the handle of the map of its last entry as its constant.
  -/
theorem relocate_allOrNothing (order : ByteOrder) (program : Bytes)
    (entries : List Elf.Relocation) (symbols : List Elf.Symbol) (maps : MapTable) :
    ((∃ result, relocate order program entries symbols maps = .ok result) ↔
        ∀ entry ∈ entries, Resolvable program symbols maps entry) ∧
      (∀ fault, relocate order program entries symbols maps = .error fault ↔
        ∃ before entry after, entries = before ++ entry :: after ∧
          (∀ good ∈ before, Resolvable program symbols maps good) ∧
          Complaint program symbols maps entry fault) ∧
      (∀ fault, relocate order program entries symbols maps = .error fault →
        ∀ (σ : Type) (kernel : Kernel σ) (attacher : Attacher) (image : Elf.Image)
          (relocation target : Elf.Section),
          Load.HasEntriesFor image relocation target order program entries symbols →
          ∀ (rest : List Elf.Section) (done : List Nat) (programs : List LoadedProgram),
            Load.attachRelocated kernel attacher maps (relocation :: rest) image done programs = (do
              Load.skip target.name fault.message
              Load.attachRelocated kernel attacher maps rest image
                (done ++ [relocation.number, relocation.info.toNat]) programs)) ∧
      ∀ data patches, relocate order program entries symbols maps = .ok (data, patches) →
        patches.length = entries.length ∧ data.length = program.length ∧
          (∀ place, program.length / instructionSize ≤ place / instructionSize →
            data[place]? = program[place]?) ∧
          SameFields order data program ∧
          ∀ instruction, Rewritten order program data entries symbols maps instruction := by
  refine ⟨exists_relocate_iff, fun fault => relocate_eq_error_iff.trans resolveEntries_eq_error_iff,
    ?_, ?_⟩
  · intro fault bad σ kernel attacher image relocation target asked rest done programs
    exact Load.attachRelocated_of_error kernel attacher asked bad rest done programs
  · intro data patches good
    obtain ⟨count, same, each⟩ := rewritten_of_relocate good
    refine ⟨count, same.operations.1, ?_, same, each⟩
    intro place behind
    -- a good entry is for a whole instruction
    have none : lastFor? entries (place / instructionSize) = none := by
      refine lastFor?_eq_none_iff.mpr fun entry member => ?_
      exact Nat.ne_of_lt (Nat.lt_of_lt_of_le
        (exists_relocate_iff.mp ⟨_, good⟩ entry member).inside behind)
    have rewritten := each (place / instructionSize)
    rw [Rewritten, none] at rewritten
    exact rewritten place rfl

/-! ### Two entries for one instruction -/

/-- One instruction that loads a constant into register 2, and a byte behind the whole ones. -/
def loadIntoTwo : Bytes := [0x18, 0x20, 0, 0, 0, 0, 0, 0, 0, 0, 0, 0, 0, 0, 0, 0, 0xFF]

/-- Two entries for the first instruction. The second one points into the middle of it. -/
def entriesForOne : List Elf.Relocation := [⟨0, 0⟩, ⟨5, 1⟩]

/-- Two symbols, for a map each. -/
def symbolsOfTwo : List Elf.Symbol := [⟨"first", 1, 0⟩, ⟨"second", 1, 20⟩]

/-- Two maps. -/
def tableOfTwo : MapTable where
  maps := [
    ⟨0, some "first", ⟨.hash, 4, 4, 1, 0⟩, ⟨7⟩⟩,
    ⟨1, some "second", ⟨.hash, 4, 4, 1, 0⟩, ⟨9⟩⟩]
  dispatch := none

/-- The second entry wins, and the register and the last byte stay. -/
theorem relocate_allOrNothing_twoEntries :
    let data : Bytes := [0x18, 0x21, 0, 0, 0, 0, 0, 9, 0, 0, 0, 0, 0, 0, 0, 0, 0xFF]
    let patches : List Patch := [⟨0, ⟨7⟩⟩, ⟨0, ⟨9⟩⟩]
    relocate .big loadIntoTwo entriesForOne symbolsOfTwo tableOfTwo = .ok (data, patches) ∧
      patches.length = entriesForOne.length ∧ data.length = loadIntoTwo.length ∧
        (∀ place, loadIntoTwo.length / instructionSize ≤ place / instructionSize →
          data[place]? = loadIntoTwo[place]?) ∧
        SameFields .big data loadIntoTwo ∧
        ∀ instruction,
          Rewritten .big loadIntoTwo data entriesForOne symbolsOfTwo tableOfTwo instruction := by
  intro data patches
  have good : relocate .big loadIntoTwo entriesForOne symbolsOfTwo tableOfTwo =
      .ok (data, patches) := by decide +kernel
  exact ⟨good, (relocate_allOrNothing .big loadIntoTwo entriesForOne symbolsOfTwo tableOfTwo).2.2.2
    data patches good⟩

end Bpf

end ProbeStream
