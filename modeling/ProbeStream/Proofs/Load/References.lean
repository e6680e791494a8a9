import ProbeStream.Proofs.Load.Course
import ProbeStream.Proofs.Words

/-!
# What a reference becomes

An instruction that was changed carries a map, and it is the map of the record that contains the
value of the symbol, in the last section of maps (`CarriesRecord`). Which section the symbol itself
is defined in plays no part. So every reference is to the map that its symbol stands for if and only
if all symbols that were referred to are defined in the last section of maps
(`changed_instructions`).

In `strayImage` a reference to a variable becomes a reference to a map.
-/

namespace ProbeStream

namespace Load

variable {σ : Type} {image : Elf.Image} {maps : Bpf.MapTable} {calls : List KernelCall}

/-! ## Maps and their records -/

/-- The record of this number in a section. -/
def recordAt (order : ByteOrder) (holder : Elf.Section) (index : Nat) : Bpf.MapDefinition :=
  .ofBytes order (holder.data.slice (index * Bpf.mapRecordSize) Bpf.mapRecordSize)

/-- A map of the table was created from the record of its number. -/
theorem MadeFrom.record {order : ByteOrder} {holder : Elf.Section}
    (made : MadeFrom order holder calls maps) {index : Nat} {map : Bpf.LiveMap}
    (found : maps.get? index = some map) :
    (index + 1) * Bpf.mapRecordSize ≤ holder.data.length ∧
      map.definition = recordAt order holder index ∧ map.creation ∈ calls := by
  have defined : (definitionsIn order holder)[index]? = some map.definition := by
    rw [← made.definitions, List.getElem?_map, show maps.maps[index]? = some map from found]
    rfl
  have member : map.creation ∈ maps.maps.map (·.creation) :=
    List.mem_map_of_mem (List.mem_of_getElem? found)
  rw [definitionsIn] at defined
  split at defined
  · rw [Bpf.mapDefinitions] at defined
    split at defined
    · next whole =>
      simp only [Except.toOption, Option.getD_some, List.getElem?_map] at defined
      obtain ⟨piece, here, same⟩ := Option.map_eq_some_iff.mp defined
      have inside : index < holder.data.length / Bpf.mapRecordSize := by
        have bound := (List.getElem?_eq_some_iff.mp here).1
        rwa [Bytes.length_pieces] at bound
      rw [Bytes.getElem?_pieces _ inside] at here
      obtain rfl := Option.some.inj here
      refine ⟨?_, same.symm, made.created.subset member⟩
      exact Nat.le_trans (Nat.mul_le_mul_right _ inside) (Nat.div_mul_le_self _ _)
    · cases defined
  · cases defined

/-! ## References -/

/-- The symbol that an entry refers to. -/
def symbolOf? (image : Elf.Image) (entry : Elf.Relocation) : Option Elf.Symbol :=
  (image.symbols.getD [])[entry.symbol]?

/-- The last entry for an instruction. -/
def LastFor (entries : List Elf.Relocation) (instruction : Nat) (entry : Elf.Relocation) : Prop :=
  ∃ before after, entries = before ++ entry :: after ∧
    entry.offset.toNat / Bpf.instructionSize = instruction ∧
    ∀ other ∈ after, other.offset.toNat / Bpf.instructionSize ≠ instruction

/-- The instruction carries the map that was created from the record of a section that contains the
value of a symbol. -/
def CarriesRecord (image : Elf.Image) (maps : Bpf.MapTable) (calls : List KernelCall)
    (program : Bytes) (instruction : Nat) (symbol : Elf.Symbol) (holder : Elf.Section) : Prop :=
  ∃ index map, index * Bpf.mapRecordSize ≤ symbol.value.toNat ∧
    symbol.value.toNat < (index + 1) * Bpf.mapRecordSize ∧
    (index + 1) * Bpf.mapRecordSize ≤ holder.data.length ∧
    maps.get? index = some map ∧ map.definition = recordAt image.order holder index ∧
    .createMap map.definition (.ok map.handle) ∈ calls ∧
    Bpf.Carries image.order program instruction map.handle

/-- The entry refers to a symbol of the last section of maps. -/
def RefersToMap (image : Elf.Image) (entry : Elf.Relocation) : Prop :=
  ∃ symbol holder, symbolOf? image entry = some symbol ∧
    lastMaps? image.sections = some holder ∧ symbol.sectionNumber = holder.number

theorem lastMaps?_mem {parts : List Elf.Section} {holder : Elf.Section}
    (last : lastMaps? parts = some holder) : holder ∈ parts :=
  List.mem_reverse.mp (List.mem_of_find?_eq_some last)

theorem Provisioned.carriesRecord (provisioned : Provisioned image calls maps) {program : Bytes}
    {instruction : Nat} {symbol : Elf.Symbol} {map : Bpf.LiveMap}
    (found : maps.get? (Bpf.mapIndex symbol) = some map)
    (carries : Bpf.Carries image.order program instruction map.handle) :
    ∃ holder, lastMaps? image.sections = some holder ∧
      CarriesRecord image maps calls program instruction symbol holder := by
  rw [Provisioned] at provisioned
  cases last : lastMaps? image.sections with
  | none =>
    rw [last] at provisioned
    rw [provisioned] at found
    cases found
  | some holder =>
    rw [last] at provisioned
    obtain ⟨inside, definition, created⟩ := MadeFrom.record provisioned found
    refine ⟨holder, rfl, Bpf.mapIndex symbol, map, Nat.div_mul_le_self _ _, ?_, inside, found,
      definition, created, carries⟩
    simp only [Bpf.mapIndex, Bpf.mapRecordSize]
    omega

theorem CarriesRecord.of_subset {calls more : List KernelCall} {program : Bytes}
    {instruction : Nat} {symbol : Elf.Symbol} {holder : Elf.Section}
    (carries : CarriesRecord image maps calls program instruction symbol holder)
    (subset : calls ⊆ more) :
    CarriesRecord image maps more program instruction symbol holder := by
  obtain ⟨index, map, lower, upper, inside, found, definition, created, handle⟩ := carries
  exact ⟨index, map, lower, upper, inside, found, definition, subset created, handle⟩

/-- What a changed instruction carries. -/
theorem carriesRecord_of_changed {attempt : Attempt} (member : attempt ∈ attempts image maps)
    (provisioned : Provisioned image calls maps) {place : Nat}
    (changed : (attempt.instructions image maps)[place]? ≠ attempt.part.data[place]?) :
    ∃ entry symbol holder,
      LastFor attempt.entries (place / Bpf.instructionSize) entry ∧
      symbolOf? image entry = some symbol ∧ lastMaps? image.sections = some holder ∧
      CarriesRecord image maps calls (attempt.instructions image maps)
        (place / Bpf.instructionSize) symbol holder := by
  obtain ⟨patches, resolved⟩ := (allGood_of_mem_attempts member).relocate
  obtain ⟨before, entry, after, entries, here, last, symbol, map, symbolFound, mapFound, carries⟩ :=
    Bpf.carries_of_ne resolved changed
  obtain ⟨holder, isLast, record⟩ := provisioned.carriesRecord mapFound carries
  exact ⟨entry, symbol, holder, ⟨before, after, entries, here, last⟩, symbolFound, isLast, record⟩

/-! ## The programs of a load -/

/-- Every changed instruction carries the map that its symbol stands for: the section that the
symbol is defined in is the last section of maps, and its record that contains the symbol's value
gave the map. No entry refers to any other symbol. -/
structure CarriesItsMaps (image : Elf.Image) (maps : Bpf.MapTable) (calls : List KernelCall)
    (attempt : Attempt) : Prop where
  changed : ∀ place, (attempt.instructions image maps)[place]? ≠ attempt.part.data[place]? →
    ∃ entry symbol holder, LastFor attempt.entries (place / Bpf.instructionSize) entry ∧
      symbolOf? image entry = some symbol ∧ image.section? symbol.sectionNumber = some holder ∧
      lastMaps? image.sections = some holder ∧
      CarriesRecord image maps calls (attempt.instructions image maps)
        (place / Bpf.instructionSize) symbol holder
  refersToMap : ∀ entry ∈ attempt.entries, RefersToMap image entry

/-- Whatever the image, the kernel and the tracing directory: an instruction of a submitted program
that was changed carries the map that was created from the record which contains the value of the
symbol of the last entry for it, in the last section of maps. All programs carry the maps that their
symbols stand for if and only if all symbols that they refer to are defined in that section. -/
theorem changed_instructions (kernel : Kernel σ) (tracefs : Tracefs) (image : Elf.Image)
    (session : Session σ) :
    let outcome := loadImage kernel tracefs image session
    ∃ calls, ∃ ledger : Ledger, outcome.2.calls = session.calls ++ calls ∧
      ledger.Describes image session.files outcome.1 calls outcome.2.files ∧
      (∀ attempt ∈ ledger.attempted, ∀ place,
        (attempt.instructions image ledger.maps)[place]? ≠ attempt.part.data[place]? →
          ∃ entry symbol holder, LastFor attempt.entries (place / Bpf.instructionSize) entry ∧
            symbolOf? image entry = some symbol ∧ lastMaps? image.sections = some holder ∧
            CarriesRecord image ledger.maps calls (attempt.instructions image ledger.maps)
              (place / Bpf.instructionSize) symbol holder) ∧
      ((∀ attempt ∈ ledger.attempted, CarriesItsMaps image ledger.maps calls attempt) ↔
        ∀ attempt ∈ ledger.attempted, ∀ entry ∈ attempt.entries, RefersToMap image entry) := by
  intro outcome
  obtain ⟨calls, ledger, added, describes⟩ := exists_ledger kernel tracefs image session
  have changed : ∀ attempt ∈ ledger.attempted, ∀ place,
      (attempt.instructions image ledger.maps)[place]? ≠ attempt.part.data[place]? →
        ∃ entry symbol holder, LastFor attempt.entries (place / Bpf.instructionSize) entry ∧
          symbolOf? image entry = some symbol ∧ lastMaps? image.sections = some holder ∧
          CarriesRecord image ledger.maps calls (attempt.instructions image ledger.maps)
            (place / Bpf.instructionSize) symbol holder := by
    intro attempt member place differs
    obtain ⟨mapCalls, groupCalls, rfl, provisioned⟩ :=
      describes.provisioned (List.ne_nil_of_mem member)
    obtain ⟨entry, symbol, holder, last, refers, isLast, record⟩ :=
      carriesRecord_of_changed (describes.attemptedFirst.subset member) provisioned differs
    exact ⟨entry, symbol, holder, last, refers, isLast,
      record.of_subset (List.subset_append_left _ _)⟩
  refine ⟨calls, ledger, added, describes, changed, ?_⟩
  constructor
  · exact fun faithful attempt member => (faithful attempt member).refersToMap
  · intro refers attempt member
    refine ⟨fun place differs => ?_, refers attempt member⟩
    obtain ⟨entry, symbol, holder, last, isSymbol, isLast, record⟩ :=
      changed attempt member place differs
    refine ⟨entry, symbol, holder, last, isSymbol, ?_, isLast, record⟩
    -- the section that the symbol is defined in is the last section of maps
    obtain ⟨before, after, entries, _⟩ := last
    obtain ⟨other, maps, isOther, isMaps, number⟩ :=
      refers attempt member entry (by rw [entries]; simp)
    obtain rfl := Option.some.inj (isSymbol.symm.trans isOther)
    obtain rfl := Option.some.inj (isLast.symm.trans isMaps)
    exact Elf.Image.section?_eq_some_iff.mpr ⟨lastMaps?_mem isLast, number.symm⟩

/-! ### A reference to a variable -/

/-- The program refers to a variable in section 3, and there is one map, in section 4. -/
def strayImage : Elf.Image where
  order := .little
  slots := [none,
    some ⟨1, "xdp", 1, 0, loadInstruction ++ exitInstruction, []⟩,
    some ⟨2, ".relxdp", Elf.typeRelocation, 1, [0], [⟨0, 0⟩]⟩,
    some ⟨3, ".data", 1, 0, List.replicate 8 0, []⟩,
    some ⟨4, "maps", 1, 0, List.replicate 20 1, []⟩]
  symbols := some [⟨"counter", 3, 0⟩]
  numbered := by
    intro number part found
    rcases number with _ | _ | _ | _ | _ | number <;> simp at found <;> simp [← found]

/-- The program is submitted, and its first instruction carries the map, although the variable is
not defined in the section of maps. -/
theorem loadImage_strayImage :
    let outcome := loadImage willingKernel ⟨"/tracing"⟩ strayImage (.start 7 .scratch)
    (submissions outcome.2.calls).map (·.instructions) =
        [[Bpf.loadConstant, 0x10, 0, 0, 7, 0, 0, 0] ++ List.replicate 8 0 ++ exitInstruction] ∧
      outcome.1.toOption.map (fun loaded => loaded.maps.maps.map (·.handle)) = some [⟨7⟩] ∧
      ¬ RefersToMap strayImage ⟨0, 0⟩ := by
  refine ⟨by decide +kernel, by decide +kernel, ?_⟩
  rintro ⟨symbol, holder, isSymbol, isLast, number⟩
  cases isSymbol
  have last : lastMaps? strayImage.sections = some ⟨4, "maps", 1, 0, List.replicate 20 1, []⟩ := by
    decide +kernel
  rw [last] at isLast
  cases isLast
  cases number

end Load

end ProbeStream
