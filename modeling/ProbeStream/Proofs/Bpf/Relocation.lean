import Mathlib.Data.List.Induction
import ProbeStream.Bpf.Relocate
import ProbeStream.Proofs.Words

/-!
# What resolving references does to a program

A patch changes nothing but the source register and the constant of one instruction
(`Patch.sameFields_apply`). So the length of a program and the operations of its instructions stay
the same, and these are all that an entry is checked against (`resolveEntry_congr`). It follows that

- resolving some entries and then some more resolves them all (`relocate_append`);
- an instruction without an entry stays as it is, and any other one carries the map of the last
  entry for it (`rewritten_of_relocate`).
-/

namespace ProbeStream

namespace Bpf

/-! ## One patch -/

namespace Registers

theorem source_setSource (order : ByteOrder) (registers : Registers) :
    (registers.setSource order mapHandleMark).source order = mapHandleMark := by
  have table : ∀ number : Fin 256,
      (Registers.setHigh ⟨.ofNat number⟩ mapHandleMark).high = mapHandleMark ∧
        (Registers.setLow ⟨.ofNat number⟩ mapHandleMark).low = mapHandleMark := by decide +kernel
  have byte := table ⟨registers.byte.toNat, registers.byte.toNat_lt⟩
  rw [UInt8.ofNat_toNat] at byte
  cases order with
  | little => exact byte.1
  | big => exact byte.2

/-- Naming another source register leaves the destination register as it is. -/
theorem destination_setSource (order : ByteOrder) (registers : Registers) :
    (registers.setSource order mapHandleMark).destination order = registers.destination order := by
  have table : ∀ number : Fin 256,
      (Registers.setHigh ⟨.ofNat number⟩ mapHandleMark).low = Registers.low ⟨.ofNat number⟩ ∧
        (Registers.setLow ⟨.ofNat number⟩ mapHandleMark).high = Registers.high ⟨.ofNat number⟩ := by
    decide +kernel
  have byte := table ⟨registers.byte.toNat, registers.byte.toNat_lt⟩
  rw [UInt8.ofNat_toNat] at byte
  cases order with
  | little => exact byte.1
  | big => exact byte.2

end Registers

/-- The instruction of this number carries a map handle. -/
def Carries (order : ByteOrder) (program : Bytes) (instruction : Nat) (handle : Handle) : Prop :=
  (∃ byte, program[instruction * instructionSize + 1]? = some byte ∧
      Registers.source order ⟨byte⟩ = mapHandleMark) ∧
    program.slice (instruction * instructionSize + 4) 4 = order.u32 handle.number

/-- The program is as long as the other one and has the same operations. -/
def SameOperations (program other : Bytes) : Prop :=
  program.length = other.length ∧
    ∀ instruction, program[instruction * instructionSize]? = other[instruction * instructionSize]?

theorem SameOperations.trans {first second third : Bytes} (same : SameOperations first second)
    (again : SameOperations second third) : SameOperations first third :=
  ⟨same.1.trans again.1, fun instruction => (same.2 instruction).trans (again.2 instruction)⟩

/-- The program has the same operations as the other one, the same destination registers and the
same offset fields. -/
structure SameFields (order : ByteOrder) (program other : Bytes) : Prop where
  operations : SameOperations program other
  destinations : ∀ instruction,
    (program[instruction * instructionSize + 1]?).map (Registers.destination order ⟨·⟩) =
      (other[instruction * instructionSize + 1]?).map (Registers.destination order ⟨·⟩)
  offsets : ∀ instruction, program.slice (instruction * instructionSize + 2) 2 =
    other.slice (instruction * instructionSize + 2) 2

theorem SameFields.refl (order : ByteOrder) (program : Bytes) : SameFields order program program :=
  ⟨⟨rfl, fun _ => rfl⟩, fun _ => rfl, fun _ => rfl⟩

theorem SameFields.trans {order : ByteOrder} {first second third : Bytes}
    (same : SameFields order first second) (again : SameFields order second third) :
    SameFields order first third where
  operations := same.operations.trans again.operations
  destinations instruction := (same.destinations instruction).trans (again.destinations instruction)
  offsets instruction := (same.offsets instruction).trans (again.offsets instruction)

namespace Patch

/-- The program has the instruction that is to be patched. -/
def Fits (program : Bytes) (patch : Patch) : Prop :=
  patch.instruction < program.length / instructionSize

variable {order : ByteOrder} {program : Bytes} {patch : Patch}

theorem Fits.end_le (fits : patch.Fits program) :
    patch.instruction * instructionSize + 4 + (order.u32 patch.handle.number).length ≤
      program.length := by
  simp only [Fits, instructionSize, ByteOrder.length_u32] at *
  omega

theorem Fits.of_sameOperations {other : Bytes} (fits : patch.Fits program)
    (same : SameOperations program other) : patch.Fits other := by
  rw [Fits, ← same.1]
  exact fits

theorem length_apply (fits : patch.Fits program) :
    (patch.apply order program).length = program.length := by
  rw [apply, Bytes.length_overwrite, List.length_set]
  rw [List.length_set]
  exact fits.end_le

/-- Only the second byte and the upper half of an instruction are patched. -/
theorem getElem?_apply_of_untouched (fits : patch.Fits program) {place : Nat}
    (second : place ≠ patch.instruction * instructionSize + 1)
    (upper : place < patch.instruction * instructionSize + 4 ∨
      (patch.instruction + 1) * instructionSize ≤ place) :
    (patch.apply order program)[place]? = program[place]? := by
  rw [apply, Bytes.getElem?_overwrite, if_neg, List.getElem?_set_ne second.symm]
  · simp only [instructionSize, ByteOrder.length_u32] at *
    omega
  · rw [List.length_set]
    exact fits.end_le

theorem getElem?_apply_of_ne (fits : patch.Fits program) {place : Nat}
    (other : place / instructionSize ≠ patch.instruction) :
    (patch.apply order program)[place]? = program[place]? := by
  simp only [instructionSize] at other
  apply getElem?_apply_of_untouched fits <;> simp only [instructionSize] <;> omega

theorem sameOperations_apply (fits : patch.Fits program) :
    SameOperations (patch.apply order program) program := by
  refine ⟨length_apply fits, fun instruction => ?_⟩
  apply getElem?_apply_of_untouched fits <;> simp only [instructionSize] <;> omega

/-- The second byte of the patched instruction names the other source register. -/
theorem getElem?_apply_second (fits : patch.Fits program) :
    (patch.apply order program)[patch.instruction * instructionSize + 1]? =
      (program[patch.instruction * instructionSize + 1]?).map fun byte =>
        (Registers.setSource order ⟨byte⟩ mapHandleMark).byte := by
  have inside : patch.instruction * instructionSize + 1 < program.length := by
    have := @Fits.end_le order program patch fits
    omega
  rw [apply, Bytes.getElem?_overwrite, if_neg (by omega), List.getElem?_set_self inside,
    List.getElem?_eq_getElem inside]
  · rfl
  · rw [List.length_set]
    exact fits.end_le

theorem sameFields_apply (fits : patch.Fits program) :
    SameFields order (patch.apply order program) program where
  operations := sameOperations_apply fits
  destinations instruction := by
    by_cases here : instruction = patch.instruction
    · rw [here, getElem?_apply_second fits, Option.map_map]
      refine Option.map_congr fun byte _ => ?_
      exact Registers.destination_setSource order ⟨byte⟩
    · rw [getElem?_apply_of_ne fits]
      simp only [instructionSize]
      omega
  offsets instruction := by
    refine Bytes.slice_congr fun place lower upper => ?_
    apply getElem?_apply_of_untouched fits <;> simp only [instructionSize] at * <;> omega

theorem carries_apply (fits : patch.Fits program) :
    Carries order (patch.apply order program) patch.instruction patch.handle := by
  have inside : patch.instruction * instructionSize + 1 < program.length := by
    have := @Fits.end_le order program patch fits
    omega
  constructor
  · refine ⟨_, ?_, Registers.source_setSource order
      ⟨program[patch.instruction * instructionSize + 1]⟩⟩
    rw [getElem?_apply_second fits, List.getElem?_eq_getElem inside]
    rfl
  · have fits : patch.instruction * instructionSize + 4 +
        (order.u32 patch.handle.number).length ≤
          (program.set (patch.instruction * instructionSize + 1)
            (Registers.setSource order ⟨program[patch.instruction * instructionSize + 1]?.getD 0⟩
              mapHandleMark).byte).length := by
      rw [List.length_set]
      exact fits.end_le
    have written := Bytes.slice_overwrite fits
    rwa [ByteOrder.length_u32] at written

/-- A patch for another instruction leaves a handle where it is. -/
theorem carries_apply_of_ne (fits : patch.Fits program) {instruction : Nat} {handle : Handle}
    (other : instruction ≠ patch.instruction) (carries : Carries order program instruction handle) :
    Carries order (patch.apply order program) instruction handle := by
  have same (place : Nat) (inside : place / instructionSize = instruction) :
      (patch.apply order program)[place]? = program[place]? :=
    getElem?_apply_of_ne fits (inside ▸ other)
  obtain ⟨⟨byte, found, marked⟩, constant⟩ := carries
  refine ⟨⟨byte, ?_, marked⟩, ?_⟩
  · rw [same _ (by simp only [instructionSize]; omega)]
    exact found
  · rw [← constant]
    refine Bytes.slice_congr fun place lower upper => same place ?_
    simp only [instructionSize] at *
    omega

end Patch

/-! ## Checking entries -/

section

variable {order : ByteOrder} {program other data : Bytes} {symbols : List Elf.Symbol}
  {maps : MapTable} {entry : Elf.Relocation} {entries more : List Elf.Relocation}
  {patch : Patch} {patches : List Patch}

/-- An entry is checked against the length of a program and its operations only. -/
theorem resolveEntry_congr (same : SameOperations program other) :
    resolveEntry program symbols maps entry = resolveEntry other symbols maps entry := by
  rw [resolveEntry, resolveEntry, same.1, same.2]

theorem resolveEntries_congr (same : SameOperations program other) :
    resolveEntries program symbols maps entries = resolveEntries other symbols maps entries := by
  induction entries with
  | nil => rfl
  | cons entry rest ih => rw [resolveEntries, resolveEntries, resolveEntry_congr same, ih]

/-- An entry is good if it points at an instruction of the program that loads a constant, and at a
symbol whose value gives a map. -/
theorem resolveEntry_eq_ok_iff :
    resolveEntry program symbols maps entry = .ok patch ↔
      patch.Fits program ∧ patch.instruction = entry.offset.toNat / instructionSize ∧
        program[patch.instruction * instructionSize]? = some loadConstant ∧
          ∃ symbol map, symbols[entry.symbol]? = some symbol ∧
            maps.get? (mapIndex symbol) = some map ∧ patch.handle = map.handle := by
  obtain ⟨instruction, handle⟩ := patch
  rw [resolveEntry, Patch.Fits]
  by_cases beyond : program.length / instructionSize ≤ entry.offset.toNat / instructionSize
  · rw [if_pos beyond]
    constructor
    · rintro ⟨⟩
    · rintro ⟨fits, rfl, _⟩
      exact absurd fits (Nat.not_lt.mpr beyond)
  rw [if_neg beyond]
  have inside : entry.offset.toNat / instructionSize * instructionSize < program.length := by
    simp only [instructionSize] at *
    omega
  rw [List.getElem?_eq_getElem inside, Option.getD_some]
  by_cases operation :
      program[entry.offset.toNat / instructionSize * instructionSize] = loadConstant
  · rw [if_neg (not_not_intro operation)]
    constructor
    · intro good
      cases symbolFound : symbols[entry.symbol]? with
      | none => simp [symbolFound] at good
      | some symbol =>
        cases mapFound : maps.get? (mapIndex symbol) with
        | none => simp [symbolFound, mapFound] at good
        | some map =>
          simp only [symbolFound, mapFound, Except.ok.injEq] at good
          cases good
          refine ⟨Nat.not_le.mp beyond, rfl, ?_, symbol, map, rfl, mapFound, rfl⟩
          rw [List.getElem?_eq_getElem inside, operation]
    · rintro ⟨_, rfl, _, symbol, map, symbolFound, mapFound, rfl⟩
      simp [symbolFound, mapFound]
  · rw [if_pos operation]
    constructor
    · rintro ⟨⟩
    · rintro ⟨_, rfl, found, _⟩
      rw [List.getElem?_eq_getElem inside] at found
      exact absurd (Option.some.inj found) operation

theorem resolveEntries_append :
    resolveEntries program symbols maps (entries ++ more) = do
      let first ← resolveEntries program symbols maps entries
      let second ← resolveEntries program symbols maps more
      return first ++ second := by
  induction entries with
  | nil =>
    simp only [List.nil_append, resolveEntries]
    cases resolveEntries program symbols maps more <;> rfl
  | cons entry rest ih =>
    rw [List.cons_append, resolveEntries, resolveEntries, ih]
    cases resolveEntry program symbols maps entry with
    | error fault => rfl
    | ok patch =>
      cases resolveEntries program symbols maps rest with
      | error fault => rfl
      | ok first => cases resolveEntries program symbols maps more <;> rfl

/-- All entries are good if each of them is. -/
theorem exists_resolveEntries_iff :
    (∃ patches, resolveEntries program symbols maps entries = .ok patches) ↔
      ∀ entry ∈ entries, ∃ patch, resolveEntry program symbols maps entry = .ok patch := by
  induction entries with
  | nil => simp [resolveEntries]
  | cons entry rest ih =>
    rw [List.forall_mem_cons, ← ih, resolveEntries]
    cases resolveEntry program symbols maps entry with
    | error fault => simp
    | ok patch => cases resolveEntries program symbols maps rest <;> simp [Except.map]

theorem fits_of_resolveEntries (good : resolveEntries program symbols maps entries = .ok patches) :
    ∀ patch ∈ patches, patch.Fits program := by
  induction entries generalizing patches with
  | nil =>
    cases good
    simp
  | cons entry rest ih =>
    rw [resolveEntries] at good
    split at good
    · cases good
    · next patch first =>
      cases others : resolveEntries program symbols maps rest with
      | error fault =>
        rw [others] at good
        cases good
      | ok more =>
        rw [others] at good
        cases good
        exact List.forall_mem_cons.mpr ⟨(resolveEntry_eq_ok_iff.mp first).1, ih others⟩

/-! ## Writing patches -/

theorem sameOperations_foldl (fits : ∀ patch ∈ patches, patch.Fits program) :
    SameOperations (patches.foldl (Patch.apply order) program) program := by
  induction patches generalizing program with
  | nil => exact ⟨rfl, fun _ => rfl⟩
  | cons patch rest ih =>
    obtain ⟨here, others⟩ := List.forall_mem_cons.mp fits
    have same : SameOperations (patch.apply order program) program :=
      Patch.sameOperations_apply here
    have back : SameOperations program (patch.apply order program) :=
      ⟨same.1.symm, fun instruction => (same.2 instruction).symm⟩
    exact (ih fun other member => (others other member).of_sameOperations back).trans same

theorem relocate_eq_ok_iff :
    relocate order program entries symbols maps = .ok (data, patches) ↔
      resolveEntries program symbols maps entries = .ok patches ∧
        data = patches.foldl (Patch.apply order) program := by
  rw [relocate]
  cases resolveEntries program symbols maps entries with
  | error fault => simp [Except.map]
  | ok found =>
    simp only [Except.map, Except.ok.injEq, Prod.mk.injEq]
    constructor
    · rintro ⟨rfl, rfl⟩
      exact ⟨rfl, rfl⟩
    · rintro ⟨rfl, rfl⟩
      exact ⟨rfl, rfl⟩

theorem sameOperations_relocate
    (good : relocate order program entries symbols maps = .ok (data, patches)) :
    SameOperations data program := by
  obtain ⟨resolved, rfl⟩ := relocate_eq_ok_iff.mp good
  exact sameOperations_foldl (fits_of_resolveEntries resolved)

/-- After some entries are resolved, the others are checked and resolved as they would have been
together with them. -/
theorem relocate_append :
    relocate order program (entries ++ more) symbols maps = do
      let (data, first) ← relocate order program entries symbols maps
      let (data, second) ← relocate order data more symbols maps
      return (data, first ++ second) := by
  cases first : relocate order program entries symbols maps with
  | error fault =>
    rw [relocate] at first
    rw [relocate, resolveEntries_append]
    cases checked : resolveEntries program symbols maps entries with
    | error fault' =>
      rw [checked] at first
      cases first
      rfl
    | ok patches =>
      rw [checked] at first
      cases first
  | ok good =>
    obtain ⟨data, patches⟩ := good
    have same := sameOperations_relocate first
    obtain ⟨checked, rfl⟩ := relocate_eq_ok_iff.mp first
    show relocate _ _ _ _ _ = (relocate order _ more symbols maps).bind _
    rw [relocate, relocate, resolveEntries_append, checked, resolveEntries_congr same]
    cases resolveEntries program symbols maps more with
    | error fault => rfl
    | ok others =>
      show Except.ok (List.foldl _ _ (patches ++ others), patches ++ others) = Except.ok _
      rw [List.foldl_append]

/-- The last of several entries is resolved in what the others have made of the program. -/
theorem relocate_concat
    (good : relocate order program (entries ++ [entry]) symbols maps = .ok (data, patches)) :
    ∃ middle written patch, relocate order program entries symbols maps = .ok (middle, written) ∧
      resolveEntry middle symbols maps entry = .ok patch ∧ data = patch.apply order middle ∧
        patches = written ++ [patch] := by
  rw [relocate_append] at good
  cases first : relocate order program entries symbols maps with
  | error fault =>
    rw [first] at good
    cases good
  | ok middle =>
    obtain ⟨middle, written⟩ := middle
    rw [first] at good
    change (relocate order middle [entry] symbols maps).bind _ = _ at good
    cases single : resolveEntry middle symbols maps entry with
    | error fault =>
      rw [relocate, resolveEntries, single] at good
      cases good
    | ok patch =>
      rw [relocate, resolveEntries, single] at good
      obtain ⟨rfl, rfl⟩ := Prod.mk.inj (Except.ok.inj good)
      exact ⟨middle, written, patch, rfl, single, rfl, rfl⟩

end

/-! ## What becomes of each instruction -/

/-- The last item of a kind. -/
theorem find?_reverse_eq_some_iff {α : Type} {list : List α} {kind : α → Bool} {item : α} :
    list.reverse.find? kind = some item ↔ kind item ∧ ∃ before after,
      list = before ++ item :: after ∧ ∀ later ∈ after, ¬ kind later := by
  rw [List.find?_eq_some_iff_append]
  refine and_congr_right fun _ => ⟨?_, ?_⟩
  · rintro ⟨after, before, reversed, others⟩
    refine ⟨before.reverse, after.reverse, ?_, fun later member => ?_⟩
    · rw [← List.reverse_reverse list, reversed]
      simp
    · simpa using others later (List.mem_reverse.mp member)
  · rintro ⟨before, after, rfl, others⟩
    refine ⟨after.reverse, before.reverse, by simp, fun later member => ?_⟩
    simpa using others later (List.mem_reverse.mp member)

/-- The same by places: no later place has an item of the kind. -/
theorem find?_reverse_eq_some_iff_getElem? {α : Type} {list : List α} {kind : α → Bool}
    {item : α} :
    list.reverse.find? kind = some item ↔ kind item ∧ ∃ place : Nat, list[place]? = some item ∧
      ∀ (later : Nat) (other : α), place < later → list[later]? = some other → ¬ kind other := by
  rw [find?_reverse_eq_some_iff]
  refine and_congr_right fun _ => ⟨?_, ?_⟩
  · rintro ⟨before, after, rfl, others⟩
    refine ⟨before.length, by simp, fun later other behind there => others other ?_⟩
    obtain ⟨more, rfl⟩ := Nat.exists_eq_add_of_lt behind
    rw [List.getElem?_append_right (by omega), Nat.add_assoc, Nat.add_sub_cancel_left,
      List.getElem?_cons_succ] at there
    exact List.mem_of_getElem? there
  · rintro ⟨place, here, others⟩
    obtain ⟨inside, rfl⟩ := List.getElem?_eq_some_iff.mp here
    refine ⟨list.take place, list.drop (place + 1), ?_, fun later member => ?_⟩
    · rw [List.getElem_cons_drop, List.take_append_drop]
    · obtain ⟨number, bound, rfl⟩ := List.getElem_of_mem member
      rw [List.getElem_drop]
      exact others _ _ (by omega) (List.getElem?_eq_getElem _)

section

variable {order : ByteOrder} {program data : Bytes} {symbols : List Elf.Symbol} {maps : MapTable}
  {entries : List Elf.Relocation} {patches : List Patch}

/-- The last of some entries for an instruction. -/
def lastFor? (entries : List Elf.Relocation) (instruction : Nat) : Option Elf.Relocation :=
  entries.reverse.find? fun entry => entry.offset.toNat / instructionSize == instruction

theorem lastFor?_concat (entries : List Elf.Relocation) (entry : Elf.Relocation)
    (instruction : Nat) :
    lastFor? (entries ++ [entry]) instruction =
      if entry.offset.toNat / instructionSize = instruction then some entry
      else lastFor? entries instruction := by
  rw [lastFor?, List.reverse_append, List.reverse_singleton, List.singleton_append,
    List.find?_cons, lastFor?]
  by_cases here : entry.offset.toNat / instructionSize = instruction
  · simp [here]
  · rw [beq_false_of_ne here, if_neg here]

theorem lastFor?_eq_some_iff {instruction : Nat} {entry : Elf.Relocation} :
    lastFor? entries instruction = some entry ↔
      entry.offset.toNat / instructionSize = instruction ∧
        ∃ before after, entries = before ++ entry :: after ∧
          ∀ other ∈ after, other.offset.toNat / instructionSize ≠ instruction := by
  rw [lastFor?, find?_reverse_eq_some_iff]
  simp only [beq_iff_eq, ne_eq]

theorem lastFor?_eq_none_iff {instruction : Nat} :
    lastFor? entries instruction = none ↔
      ∀ entry ∈ entries, entry.offset.toNat / instructionSize ≠ instruction := by
  simp [lastFor?]

/-- What some entries have made of one instruction: without an entry for it, its bytes are as they
were; otherwise it carries the map of the last one. -/
def Rewritten (order : ByteOrder) (program data : Bytes) (entries : List Elf.Relocation)
    (symbols : List Elf.Symbol) (maps : MapTable) (instruction : Nat) : Prop :=
  match lastFor? entries instruction with
  | none => ∀ place, place / instructionSize = instruction → data[place]? = program[place]?
  | some entry => ∃ symbol map, symbols[entry.symbol]? = some symbol ∧
      maps.get? (mapIndex symbol) = some map ∧ Carries order data instruction map.handle

/-- Resolving entries writes one patch for each of them, and changes nothing but the source
registers and the constants of the instructions that they are for. -/
theorem rewritten_of_relocate
    (good : relocate order program entries symbols maps = .ok (data, patches)) :
    patches.length = entries.length ∧ SameFields order data program ∧
      ∀ instruction, Rewritten order program data entries symbols maps instruction := by
  induction entries using List.reverseRecOn generalizing data patches with
  | nil =>
    cases good
    exact ⟨rfl, .refl order program, fun _ _ _ => rfl⟩
  | append_singleton earlier entry ih =>
    obtain ⟨middle, written, patch, first, single, rfl, rfl⟩ := relocate_concat good
    obtain ⟨count, same, each⟩ := ih first
    obtain ⟨fits, points, -, symbol, map, symbolFound, mapFound, handle⟩ :=
      resolveEntry_eq_ok_iff.mp single
    refine ⟨by simp [count], (Patch.sameFields_apply fits).trans same, fun instruction => ?_⟩
    have before := each instruction
    rw [Rewritten] at before ⊢
    rw [lastFor?_concat, ← points]
    by_cases here : patch.instruction = instruction
    · rw [if_pos here, ← here]
      exact ⟨symbol, map, symbolFound, mapFound, handle ▸ Patch.carries_apply fits⟩
    · -- another instruction is as the earlier entries have left it
      rw [if_neg here]
      split at before
      · intro place inside
        rw [Patch.getElem?_apply_of_ne fits (inside ▸ Ne.symm here)]
        exact before place inside
      · obtain ⟨symbol, map, symbolFound, mapFound, carries⟩ := before
        exact ⟨symbol, map, symbolFound, mapFound,
          Patch.carries_apply_of_ne fits (Ne.symm here) carries⟩

/-- An instruction that is not as it was carries the map of the last entry for it. -/
theorem carries_of_ne (good : relocate order program entries symbols maps = .ok (data, patches))
    {place : Nat} (changed : data[place]? ≠ program[place]?) :
    ∃ before entry after, entries = before ++ entry :: after ∧
      entry.offset.toNat / instructionSize = place / instructionSize ∧
      (∀ other ∈ after, other.offset.toNat / instructionSize ≠ place / instructionSize) ∧
      ∃ symbol map, symbols[entry.symbol]? = some symbol ∧
        maps.get? (mapIndex symbol) = some map ∧
          Carries order data (place / instructionSize) map.handle := by
  have rewritten := (rewritten_of_relocate good).2.2 (place / instructionSize)
  rw [Rewritten] at rewritten
  split at rewritten
  · exact absurd (rewritten place rfl) changed
  · next entry last =>
    obtain ⟨names, before, after, split, others⟩ := lastFor?_eq_some_iff.mp last
    exact ⟨before, entry, after, split, names, others, rewritten⟩

end

end Bpf

end ProbeStream
