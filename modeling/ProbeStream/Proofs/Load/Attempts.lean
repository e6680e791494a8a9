import Mathlib.Data.List.Basic
import ProbeStream.Proofs.Load.Plan

/-!
# What a load attempts

Any section may be the target of several relocation sections. The second pass attaches its program
once for each of them whose entries are all good, and the bytes then have the entries of this and of
all earlier ones. So a program that is submitted is not given by its section alone: an *attempt*
also tells which entries have been resolved in it.

`attempts` says in which order a load goes through its attempts, and does not look at anything but
the image and the maps. If no section is targeted twice, and no relocation section has the name of a
program, these are the programs of the plan (`map_attempts`).
-/

namespace ProbeStream

/-! ## Images with changed sections -/

namespace Elf.Image

/-- The image with every section changed in its place. -/
def mapSections (image : Image) (change : Section → Section)
    (keeps : ∀ part, (change part).number = part.number) : Image :=
  { image with
    slots := image.slots.map (·.map change)
    numbered := by
      intro place part found
      rw [List.getElem?_map] at found
      obtain ⟨slot, before, changed⟩ := Option.map_eq_some_iff.mp found
      obtain ⟨old, rfl, rfl⟩ := Option.map_eq_some_iff.mp changed
      exact (keeps old).trans (image.numbered place old before) }

variable {image : Image} {change other : Section → Section}
  {keeps : ∀ part, (change part).number = part.number}
  {keepsOther : ∀ part, (other part).number = part.number}

theorem section?_mapSections (number : Nat) :
    (image.mapSections change keeps).section? number = (image.section? number).map change := by
  rw [section?, mapSections, List.getElem?_map, section?]
  cases image.slots[number]? with
  | none => rfl
  | some slot => rfl

theorem sections_mapSections :
    (image.mapSections change keeps).sections = image.sections.map change := by
  rw [sections, mapSections, List.filterMap_map, sections, List.map_filterMap]
  rfl

theorem mapSections_congr (same : ∀ part ∈ image.sections, change part = other part) :
    image.mapSections change keeps = image.mapSections other keepsOther := by
  have slots : image.slots.map (·.map change) = image.slots.map (·.map other) := by
    refine List.map_congr_left fun slot member => ?_
    cases slot with
    | none => rfl
    | some part => exact congrArg some (same part (List.mem_filterMap.mpr ⟨_, member, rfl⟩))
  simp only [mapSections, slots]

theorem mapSections_id (same : ∀ part ∈ image.sections, change part = part) :
    image.mapSections change keeps = image := by
  have slots : image.slots.map (·.map change) = image.slots.map id := by
    refine List.map_congr_left fun slot member => ?_
    cases slot with
    | none => rfl
    | some part => exact congrArg some (same part (List.mem_filterMap.mpr ⟨_, member, rfl⟩))
  rw [List.map_id] at slots
  simp only [mapSections, slots]

/-- Other bytes in one section are a change of all sections that leaves the others alone. -/
theorem withData_mapSections {number : Nat} {data : Bytes}
    (here : ∀ part ∈ image.sections, part.number = number →
      other part = { change part with data := data })
    (elsewhere : ∀ part ∈ image.sections, part.number ≠ number → other part = change part) :
    (image.mapSections change keeps).withData number data =
      image.mapSections other keepsOther := by
  have slots : (image.slots.map (·.map change)).modify number
      (·.map fun part => { part with data := data }) = image.slots.map (·.map other) := by
    refine List.ext_getElem? fun place => ?_
    rw [List.getElem?_modify, List.getElem?_map, List.getElem?_map]
    cases found : image.slots[place]? with
    | none => rfl
    | some slot =>
      cases slot with
      | none => split <;> rfl
      | some part =>
        have member : part ∈ image.sections :=
          List.mem_filterMap.mpr ⟨_, List.mem_of_getElem? found, rfl⟩
        have numbered := image.numbered place part found
        split
        · next same =>
          exact congrArg (some ∘ some) (here part member (numbered.trans same.symm)).symm
        · next apart =>
          refine congrArg (some ∘ some) (elsewhere part member ?_).symm
          rintro rfl
          exact apart numbered
  simp only [withData, mapSections, slots]

theorem section?_withData (number : Nat) (data : Bytes) (place : Nat) :
    (image.withData number data).section? place =
      if number = place then (image.section? place).map fun part => { part with data := data }
      else image.section? place := by
  rw [section?, withData, List.getElem?_modify, section?]
  cases image.slots[place]? with
  | none => split <;> rfl
  | some slot => split <;> rfl

/-- Sections stand in the order of their numbers. -/
theorem ascending_sections (image : Image) :
    image.sections.Pairwise fun first second => first.number < second.number := by
  rw [sections, List.pairwise_filterMap, List.pairwise_iff_getElem]
  rintro first second inFirst inSecond before part found other otherFound
  have numberedAt {place : Nat} {part : Section} (inside : place < image.slots.length)
      (here : id image.slots[place] = some part) : part.number = place := by
    refine image.numbered place part ?_
    rw [List.getElem?_eq_getElem inside]
    exact congrArg some here
  rw [numberedAt inFirst found, numberedAt inSecond otherFound]
  exact before

/-- Sections have different numbers. -/
theorem pairwise_sections (image : Image) :
    image.sections.Pairwise fun first second => first.number ≠ second.number :=
  image.ascending_sections.imp Nat.ne_of_lt

end Elf.Image

namespace Load

/-! ## Entries that have been resolved -/

/-- Whether the entries of a relocation section are resolved in a section: it must hold the program
that they target, and all of them must be good. -/
def resolves (image : Elf.Image) (maps : Bpf.MapTable) (relocation part : Elf.Section) : Bool :=
  relocation.info.toNat == part.number && Bpf.Category.isProgramSection part.name &&
    (resolved? image maps relocation part).isSome

/-- The entries that some relocation sections have for a section, if they are resolved in it. -/
def entriesFor (image : Elf.Image) (maps : Bpf.MapTable) (relocations : List Elf.Section)
    (part : Elf.Section) : List Elf.Relocation :=
  (relocations.filter (resolves image maps · part)).flatMap (·.relocations)

/-- The bytes of a section with some entries resolved in it, if they are good. -/
def instructionsWith (image : Elf.Image) (maps : Bpf.MapTable) (part : Elf.Section)
    (entries : List Elf.Relocation) : Bytes :=
  match Bpf.relocate image.order part.data entries (image.symbols.getD []) maps with
  | .error _ => part.data
  | .ok (data, _) => data

/-- All entries can be resolved in a section. -/
def AllGood (image : Elf.Image) (maps : Bpf.MapTable) (part : Elf.Section)
    (entries : List Elf.Relocation) : Prop :=
  ∀ entry ∈ entries, ∃ patch,
    Bpf.resolveEntry part.data (image.symbols.getD []) maps entry = .ok patch

section

variable {image : Elf.Image} {maps : Bpf.MapTable} {relocation part : Elf.Section}
  {relocations : List Elf.Section} {entries more : List Elf.Relocation}

theorem resolves_iff : resolves image maps relocation part ↔
    relocation.info.toNat = part.number ∧ Bpf.Category.isProgramSection part.name ∧
      AllGood image maps part relocation.relocations := by
  rw [resolves, Bool.and_eq_true, Bool.and_eq_true, beq_iff_eq, isSome_resolved?_iff, and_assoc,
    AllGood]

theorem resolves_eq_false_of_absent (absent : image.section? relocation.info.toNat = none) :
    ∀ part ∈ image.sections, resolves image maps relocation part = false := by
  intro part member
  rw [Bool.eq_false_iff]
  intro resolved
  rw [(resolves_iff.mp resolved).1, Elf.Image.section?_eq_some_iff.mpr ⟨member, rfl⟩] at absent
  cases absent

/-- Entries can be resolved in their target only. -/
theorem resolves_eq_false_of_target {target : Elf.Section}
    (found : image.section? relocation.info.toNat = some target)
    (bad : resolves image maps relocation target = false) :
    ∀ part ∈ image.sections, resolves image maps relocation part = false := by
  obtain ⟨present, number⟩ := Elf.Image.section?_eq_some_iff.mp found
  intro part member
  rw [Bool.eq_false_iff]
  intro resolved
  have same := (resolves_iff.mp resolved).1.symm.trans number.symm
  obtain rfl := Elf.Image.eq_of_number_eq member present same
  rw [bad] at resolved
  cases resolved

theorem AllGood.relocate (good : AllGood image maps part entries) :
    ∃ patches, Bpf.relocate image.order part.data entries (image.symbols.getD []) maps =
      .ok (instructionsWith image maps part entries, patches) := by
  obtain ⟨patches, checked⟩ := Bpf.exists_resolveEntries_iff.mpr good
  refine ⟨patches, ?_⟩
  rw [instructionsWith, Bpf.relocate, checked]
  rfl

theorem allGood_entriesFor (image : Elf.Image) (maps : Bpf.MapTable)
    (relocations : List Elf.Section) (part : Elf.Section) :
    AllGood image maps part (entriesFor image maps relocations part) := by
  intro entry member
  obtain ⟨relocation, present, inside⟩ := List.mem_flatMap.mp member
  exact (resolves_iff.mp (List.mem_filter.mp present).2).2.2 entry inside

theorem entriesFor_append_of_resolves (good : resolves image maps relocation part) :
    entriesFor image maps (relocations ++ [relocation]) part =
      entriesFor image maps relocations part ++ relocation.relocations := by
  simp [entriesFor, good]

theorem entriesFor_append_of_not_resolves (other : resolves image maps relocation part = false) :
    entriesFor image maps (relocations ++ [relocation]) part =
      entriesFor image maps relocations part := by
  simp [entriesFor, other]

theorem AllGood.of_relocate {data : Bytes} {patches : List Bpf.Patch}
    (good : Bpf.relocate image.order part.data entries (image.symbols.getD []) maps =
      .ok (data, patches)) :
    AllGood image maps part entries ∧ data = instructionsWith image maps part entries := by
  constructor
  · exact Bpf.exists_resolveEntries_iff.mp ⟨patches, (Bpf.relocate_eq_ok_iff.mp good).1⟩
  · rw [instructionsWith, good]

theorem allGood_append :
    AllGood image maps part (entries ++ more) ↔
      AllGood image maps part entries ∧ AllGood image maps part more :=
  List.forall_mem_append

/-- Once some entries are resolved in a program, more of them are good if they were good in the
program as it was, and then all of them are resolved. -/
theorem resolved?_instructionsWith (good : AllGood image maps part entries) :
    resolved? image maps relocation
        { part with data := instructionsWith image maps part entries } =
      if (resolved? image maps relocation part).isSome then
        some (instructionsWith image maps part (entries ++ relocation.relocations))
      else none := by
  obtain ⟨patches, first⟩ := good.relocate
  have both := @Bpf.relocate_append image.order part.data (image.symbols.getD []) maps entries
    relocation.relocations
  rw [first] at both
  change _ = (Bpf.relocate _ _ _ _ _).bind _ at both
  rw [resolved?]
  dsimp only
  cases second : Bpf.relocate image.order (instructionsWith image maps part entries)
    relocation.relocations (image.symbols.getD []) maps with
  | ok result =>
    obtain ⟨data, later⟩ := result
    rw [second] at both
    obtain ⟨all, rfl⟩ := AllGood.of_relocate both
    rw [if_pos (isSome_resolved?_iff.mpr (allGood_append.mp all).2)]
  | error fault =>
    rw [second] at both
    rw [if_neg]
    intro isSome
    obtain ⟨_, impossible⟩ :=
      (allGood_append.mpr ⟨good, isSome_resolved?_iff.mp isSome⟩).relocate
    rw [both] at impossible
    cases impossible

end

/-! ## The image between the passes -/

/-- A section after the entries of some relocation sections were resolved in it. -/
def patchedPart (image : Elf.Image) (maps : Bpf.MapTable) (relocations : List Elf.Section)
    (part : Elf.Section) : Elf.Section :=
  { part with data := instructionsWith image maps part (entriesFor image maps relocations part) }

theorem number_patchedPart (image : Elf.Image) (maps : Bpf.MapTable)
    (relocations : List Elf.Section) (part : Elf.Section) :
    (patchedPart image maps relocations part).number = part.number := rfl

/-- The image after the entries of some relocation sections were resolved. -/
def patchedBy (image : Elf.Image) (maps : Bpf.MapTable) (relocations : List Elf.Section) :
    Elf.Image :=
  image.mapSections (patchedPart image maps relocations) (number_patchedPart image maps relocations)

section

variable {image : Elf.Image} {maps : Bpf.MapTable} {relocation target : Elf.Section}
  {relocations : List Elf.Section}

theorem section?_patchedBy (number : Nat) :
    (patchedBy image maps relocations).section? number =
      (image.section? number).map (patchedPart image maps relocations) :=
  Elf.Image.section?_mapSections number

theorem patchedBy_nil : patchedBy image maps [] = image :=
  Elf.Image.mapSections_id fun _ _ => rfl

/-- A relocation section whose entries are not resolved in its target changes nothing. -/
theorem patchedBy_append_of_not_resolves
    (none : ∀ part ∈ image.sections, resolves image maps relocation part = false) :
    patchedBy image maps (relocations ++ [relocation]) = patchedBy image maps relocations := by
  refine Elf.Image.mapSections_congr fun part member => ?_
  rw [patchedPart, entriesFor_append_of_not_resolves (none part member), patchedPart]

/-- Resolving one more relocation section gives its target new bytes. -/
theorem withData_patchedBy (present : target ∈ image.sections)
    (good : resolves image maps relocation target) :
    (patchedBy image maps relocations).withData target.number (instructionsWith image maps target
        (entriesFor image maps relocations target ++ relocation.relocations)) =
      patchedBy image maps (relocations ++ [relocation]) := by
  refine Elf.Image.withData_mapSections ?_ ?_
  · intro part member same
    obtain rfl := Elf.Image.eq_of_number_eq member present same
    rw [patchedPart, entriesFor_append_of_resolves good]
    rfl
  · intro part member apart
    have other : resolves image maps relocation part = false := by
      rw [Bool.eq_false_iff]
      intro resolved
      exact apart ((resolves_iff.mp resolved).1.symm.trans (resolves_iff.mp good).1)
    rw [patchedPart, entriesFor_append_of_not_resolves other, patchedPart]

end

/-! ## Attempts -/

/-- A program that is to be submitted with some entries resolved in it. -/
structure Attempt where
  part : Elf.Section
  category : Bpf.Category
  entries : List Elf.Relocation
deriving DecidableEq, Repr

namespace Attempt

/-- The bytes that are submitted. -/
def instructions (image : Elf.Image) (maps : Bpf.MapTable) (attempt : Attempt) : Bytes :=
  instructionsWith image maps attempt.part attempt.entries

def submission (image : Elf.Image) (maps : Bpf.MapTable) (attempt : Attempt) : Submission :=
  ⟨attempt.part.number, attempt.part.name, attempt.category, attempt.instructions image maps⟩

/-- What the kernel is asked for. -/
def request (image : Elf.Image) (maps : Bpf.MapTable) (attacher : Attacher) (attempt : Attempt) :
    ProgramRequest :=
  (attempt.submission image maps).request attacher

/-- The program of a section with some entries resolved in it, if its name gives a category. -/
def of? (part : Elf.Section) (entries : List Elf.Relocation) : Option Attempt :=
  match Bpf.Category.ofSectionName part.name with
  | .error _ => none
  | .ok category => some ⟨part, category, entries⟩

theorem of?_eq_some_iff {part : Elf.Section} {entries : List Elf.Relocation} {attempt : Attempt} :
    of? part entries = some attempt ↔
      attempt.part = part ∧ attempt.entries = entries ∧
        Bpf.Category.ofSectionName part.name = .ok attempt.category := by
  obtain ⟨_, category, _⟩ := attempt
  rw [of?]
  cases Bpf.Category.ofSectionName part.name with
  | error fault => simp
  | ok named =>
    simp only [Option.some.injEq, mk.injEq, Except.ok.injEq]
    tauto

theorem submission_of? (image : Elf.Image) (maps : Bpf.MapTable) (part : Elf.Section)
    (entries : List Elf.Relocation) :
    (of? part entries).map (·.submission image maps) =
      submission? part (instructionsWith image maps part entries) := by
  rw [of?, submission?]
  cases Bpf.Category.ofSectionName part.name with
  | error fault => rfl
  | ok category => rfl

end Attempt

/-- The program that is attached when a relocation section is met behind some others. -/
def relocatedAttempt? (image : Elf.Image) (maps : Bpf.MapTable) (earlier : List Elf.Section)
    (relocation : Elf.Section) : Option Attempt :=
  match image.section? relocation.info.toNat with
  | none => none
  | some target =>
    if resolves image maps relocation target then
      Attempt.of? target (entriesFor image maps (earlier ++ [relocation]) target)
    else none

theorem relocatedAttempt?_eq_none {image : Elf.Image} {maps : Bpf.MapTable}
    {relocation : Elf.Section}
    (none : ∀ part ∈ image.sections, resolves image maps relocation part = false)
    (earlier : List Elf.Section) : relocatedAttempt? image maps earlier relocation = .none := by
  rw [relocatedAttempt?]
  cases found : image.section? relocation.info.toNat with
  | none => rfl
  | some target =>
    dsimp only
    rw [none target (Elf.Image.section?_eq_some_iff.mp found).1, if_neg Bool.false_ne_true]

theorem relocatedAttempt?_of_resolves {image : Elf.Image} {maps : Bpf.MapTable}
    {relocation target : Elf.Section} (found : image.section? relocation.info.toNat = some target)
    (good : resolves image maps relocation target) (earlier : List Elf.Section) :
    relocatedAttempt? image maps earlier relocation =
      Attempt.of? target (entriesFor image maps earlier target ++ relocation.relocations) := by
  rw [relocatedAttempt?, found]
  dsimp only
  rw [if_pos good, entriesFor_append_of_resolves good]

/-- The programs that are attached for relocation sections behind some others. -/
def relocatedAttempts (image : Elf.Image) (maps : Bpf.MapTable) :
    (earlier relocations : List Elf.Section) → List Attempt
  | _, [] => []
  | earlier, relocation :: rest =>
    (relocatedAttempt? image maps earlier relocation).toList ++
      relocatedAttempts image maps (earlier ++ [relocation]) rest

/-- The relocation sections of an image. -/
def relocationSections (image : Elf.Image) : List Elf.Section :=
  image.sections.filter (·.isRelocation)

/-- The sections that the second pass marks for a relocation section. -/
def marks (image : Elf.Image) (relocation : Elf.Section) : List Nat :=
  if (image.section? relocation.info.toNat).isSome then
    [relocation.number, relocation.info.toNat]
  else []

/-- The numbers of the relocation sections that target a section of the image, and of these
targets. The second pass marks all of them. -/
def relocatedNumbers (image : Elf.Image) : List Nat :=
  (relocationSections image).flatMap (marks image)

/-- The program of a section that the second pass does not deal with. -/
def remainingAttempt? (image : Elf.Image) (part : Elf.Section) : Option Attempt :=
  if part.number ∈ relocatedNumbers image then none else Attempt.of? part []

/-- The programs that a load attaches, one after the other, if nothing fails. -/
def attempts (image : Elf.Image) (maps : Bpf.MapTable) : List Attempt :=
  relocatedAttempts image maps [] (relocationSections image) ++
    image.sections.filterMap (remainingAttempt? image)

section

variable {image : Elf.Image} {maps : Bpf.MapTable} {attempt : Attempt}

theorem relocatedAttempt?_eq_some_iff {earlier : List Elf.Section} {relocation : Elf.Section} :
    relocatedAttempt? image maps earlier relocation = some attempt ↔
      attempt.part ∈ image.sections ∧ resolves image maps relocation attempt.part ∧
        attempt.entries = entriesFor image maps (earlier ++ [relocation]) attempt.part ∧
          Bpf.Category.ofSectionName attempt.part.name = .ok attempt.category := by
  constructor
  · intro planned
    rw [relocatedAttempt?] at planned
    split at planned
    · cases planned
    · next target found =>
      split at planned
      · next resolved =>
        obtain ⟨rfl, entries, named⟩ := Attempt.of?_eq_some_iff.mp planned
        exact ⟨(Elf.Image.section?_eq_some_iff.mp found).1, resolved, entries, named⟩
      · cases planned
  · rintro ⟨present, resolved, entries, named⟩
    have found := Elf.Image.section?_eq_some_iff.mpr ⟨present, (resolves_iff.mp resolved).1.symm⟩
    rw [relocatedAttempt?_of_resolves found resolved, ← entriesFor_append_of_resolves resolved]
    exact Attempt.of?_eq_some_iff.mpr ⟨rfl, entries, named⟩

theorem remainingAttempt?_eq_some_iff {part : Elf.Section} :
    remainingAttempt? image part = some attempt ↔
      part.number ∉ relocatedNumbers image ∧ attempt.part = part ∧ attempt.entries = [] ∧
        Bpf.Category.ofSectionName part.name = .ok attempt.category := by
  rw [remainingAttempt?]
  by_cases done : part.number ∈ relocatedNumbers image
  · simp [done]
  · rw [if_neg done, Attempt.of?_eq_some_iff]
    simp [done]

theorem mem_relocatedAttempts {earlier relocations : List Elf.Section}
    (member : attempt ∈ relocatedAttempts image maps earlier relocations) :
    ∃ before relocation, before ++ [relocation] <+: relocations ∧
      relocatedAttempt? image maps (earlier ++ before) relocation = some attempt := by
  induction relocations generalizing earlier with
  | nil => cases member
  | cons relocation rest ih =>
    rcases List.mem_append.mp member with here | there
    · refine ⟨[], relocation, ⟨rest, rfl⟩, ?_⟩
      rw [List.append_nil]
      exact Option.mem_toList.mp here
    · obtain ⟨before, other, first, planned⟩ := ih there
      refine ⟨relocation :: before, other, (List.prefix_cons_inj relocation).mpr first, ?_⟩
      rwa [List.append_assoc] at planned

/-- An attempt is for a program of the image, with the entries that are resolved in it by some of
the first relocation sections. -/
theorem mem_attempts (member : attempt ∈ attempts image maps) :
    attempt.part ∈ image.sections ∧
      Bpf.Category.ofSectionName attempt.part.name = .ok attempt.category ∧
      ∃ first, first <+: relocationSections image ∧
        attempt.entries = entriesFor image maps first attempt.part := by
  rcases List.mem_append.mp member with relocated | remaining
  · obtain ⟨before, relocation, first, planned⟩ := mem_relocatedAttempts relocated
    obtain ⟨present, _, entries, named⟩ := relocatedAttempt?_eq_some_iff.mp planned
    exact ⟨present, named, _, first, entries⟩
  · obtain ⟨part, present, planned⟩ := List.mem_filterMap.mp remaining
    obtain ⟨_, rfl, entries, named⟩ := remainingAttempt?_eq_some_iff.mp planned
    exact ⟨present, named, [], List.nil_prefix, entries⟩

/-- The entries of an attempt are good, so its bytes have all of them resolved. -/
theorem allGood_of_mem_attempts (member : attempt ∈ attempts image maps) :
    AllGood image maps attempt.part attempt.entries := by
  obtain ⟨_, _, first, _, entries⟩ := mem_attempts member
  rw [entries]
  exact allGood_entriesFor image maps first attempt.part

end

/-! ## Programs that are left for the third pass -/

theorem mem_relocatedNumbers {image : Elf.Image} {number : Nat} :
    number ∈ relocatedNumbers image ↔
      ∃ relocation ∈ image.sections, relocation.isRelocation ∧
        (image.section? relocation.info.toNat).isSome ∧
          (number = relocation.number ∨ number = relocation.info.toNat) := by
  rw [relocatedNumbers, List.mem_flatMap]
  constructor
  · rintro ⟨relocation, member, marked⟩
    obtain ⟨present, isRelocation⟩ := List.mem_filter.mp member
    rw [marks] at marked
    split at marked
    · next isSome =>
      simp only [List.mem_cons, List.not_mem_nil, or_false] at marked
      exact ⟨relocation, present, isRelocation, isSome, marked⟩
    · cases marked
  · rintro ⟨relocation, present, isRelocation, isSome, either⟩
    refine ⟨relocation, List.mem_filter.mpr ⟨present, isRelocation⟩, ?_⟩
    rw [marks, if_pos isSome]
    simpa using either

/-- No entry is resolved in a section that the second pass does not deal with. -/
theorem entriesFor_of_not_mem {image : Elf.Image} (maps : Bpf.MapTable) {part : Elf.Section}
    (present : part ∈ image.sections) (free : part.number ∉ relocatedNumbers image) :
    entriesFor image maps (relocationSections image) part = [] := by
  rw [entriesFor, List.filter_eq_nil_iff.mpr]
  · rfl
  · intro relocation member resolved
    obtain ⟨here, isRelocation⟩ := List.mem_filter.mp member
    have targets := (resolves_iff.mp resolved).1
    refine free (mem_relocatedNumbers.mpr ⟨relocation, here, isRelocation, ?_, .inr targets.symm⟩)
    rw [targets, Elf.Image.section?_eq_some_iff.mpr ⟨present, rfl⟩]
    rfl

theorem filterMap_cons_eq {α β : Type} (view : α → Option β) (first : α) (rest : List α) :
    (first :: rest).filterMap view = (view first).toList ++ rest.filterMap view := by
  cases found : view first with
  | none => rw [List.filterMap_cons_none found]; rfl
  | some value => rw [List.filterMap_cons_some found]; rfl

/-- The program of a section that is not done. -/
def remaining? (done : List Nat) (part : Elf.Section) : Option Submission :=
  if part.number ∉ done ∧ Bpf.Category.isProgramSection part.name then submission? part part.data
  else none

/-- To the third pass the image that the second one leaves looks like the image itself. -/
theorem filterMap_remaining?_patchedBy (image : Elf.Image) (maps : Bpf.MapTable) :
    (patchedBy image maps (relocationSections image)).sections.filterMap
        (remaining? (relocatedNumbers image)) =
      (image.sections.filterMap (remainingAttempt? image)).map (·.submission image maps) := by
  rw [patchedBy, Elf.Image.sections_mapSections, List.filterMap_map, List.map_filterMap]
  refine List.filterMap_congr fun part present => ?_
  show remaining? _ (patchedPart image maps (relocationSections image) part) = _
  rw [remaining?, remainingAttempt?, number_patchedPart]
  by_cases done : part.number ∈ relocatedNumbers image
  · rw [if_pos done, if_neg fun left => left.1 done]
    rfl
  rw [if_neg done, Attempt.submission_of?, patchedPart, entriesFor_of_not_mem maps present done]
  by_cases program : Bpf.Category.isProgramSection part.name
  · exact if_pos ⟨done, program⟩
  · rw [if_neg fun left => program left.2, submission?_of_not_program program]

/-! ## Attempts and the plan -/

section

variable {image : Elf.Image} {maps : Bpf.MapTable} {relocation target : Elf.Section}

/-- The attempt for a relocation section is the planned program of its target, if nothing was
resolved in the target before. -/
theorem submission_relocatedAttempt? {earlier : List Elf.Section}
    (first : ∀ target, image.section? relocation.info.toNat = some target →
      entriesFor image maps earlier target = []) :
    (relocatedAttempt? image maps earlier relocation).map (·.submission image maps) =
      relocated? image maps relocation := by
  cases found : image.section? relocation.info.toNat with
  | none => simp [relocatedAttempt?, relocated?, found]
  | some target =>
    have planned : relocated? image maps relocation =
        (resolved? image maps relocation target).bind (submission? target) := by
      simp [relocated?, found]
    rw [planned]
    by_cases resolved : resolves image maps relocation target
    · obtain ⟨patches, good⟩ := (resolves_iff.mp resolved).2.2.relocate
      rw [relocatedAttempt?_of_resolves found resolved, first target found, List.nil_append,
        Attempt.submission_of?, resolved?, good]
      rfl
    · rw [relocatedAttempt?, found]
      dsimp only
      rw [if_neg resolved]
      by_cases program : Bpf.Category.isProgramSection target.name
      · have number := (Elf.Image.section?_eq_some_iff.mp found).2
        have bad : resolved? image maps relocation target = none := by
          simpa [resolves, number, program] using resolved
        rw [bad]
        rfl
      · rw [show submission? target = fun _ => none from
          funext (submission?_of_not_program program), Option.bind_fun_none]
        rfl

theorem map_relocatedAttempts {earlier relocations : List Elf.Section}
    (once : (earlier ++ relocations).Pairwise fun first second =>
      first.info = second.info → image.section? first.info.toNat = none) :
    (relocatedAttempts image maps earlier relocations).map (·.submission image maps) =
      relocations.filterMap (relocated? image maps) := by
  induction relocations generalizing earlier with
  | nil => rfl
  | cons relocation rest ih =>
    have first : ∀ target, image.section? relocation.info.toNat = some target →
        entriesFor image maps earlier target = [] := by
      intro target found
      rw [entriesFor, List.filter_eq_nil_iff.mpr]
      · rfl
      · intro other member resolved
        have number := (Elf.Image.section?_eq_some_iff.mp found).2
        have same : other.info = relocation.info :=
          UInt32.toNat_inj.mp ((resolves_iff.mp resolved).1.trans number)
        have absent := (List.pairwise_append.mp once).2.2 other member relocation
          List.mem_cons_self same
        rw [same, found] at absent
        cases absent
    rw [relocatedAttempts, List.map_append, filterMap_cons_eq,
      ← submission_relocatedAttempt? first, Option.toList_map]
    refine congrArg _ (ih ?_)
    rwa [List.append_assoc]

/-- A program is left for the third pass exactly if no relocation section targets it. -/
theorem mem_relocatedNumbers_iff_isTargeted {image : Elf.Image} (unnamed : RelocationsUnnamed image)
    {part : Elf.Section} (present : part ∈ image.sections)
    (program : Bpf.Category.isProgramSection part.name) :
    part.number ∈ relocatedNumbers image ↔ isTargeted image part.number := by
  rw [mem_relocatedNumbers, isTargeted, List.any_eq_true]
  constructor
  · rintro ⟨relocation, here, isRelocation, _, itself | target⟩
    · obtain rfl := Elf.Image.eq_of_number_eq present here itself
      exact absurd program (unnamed part present isRelocation)
    · exact ⟨relocation, here, by simp [isRelocation, target]⟩
  · rintro ⟨relocation, here, targets⟩
    simp only [Bool.and_eq_true, beq_iff_eq] at targets
    obtain ⟨isRelocation, target⟩ := targets
    refine ⟨relocation, here, isRelocation, ?_, .inr target.symm⟩
    rw [target, Elf.Image.section?_eq_some_iff.mpr ⟨present, rfl⟩]
    rfl

theorem submission_remainingAttempt? (unnamed : RelocationsUnnamed image) {part : Elf.Section}
    (present : part ∈ image.sections) :
    (remainingAttempt? image part).map (·.submission image maps) = untargeted? image part := by
  rw [remainingAttempt?, untargeted?]
  by_cases program : Bpf.Category.isProgramSection part.name
  · have same := mem_relocatedNumbers_iff_isTargeted unnamed present program
    by_cases targeted : isTargeted image part.number
    · rw [if_pos targeted, if_pos (same.mpr targeted)]
      rfl
    · rw [if_neg targeted, if_neg fun done => targeted (same.mp done)]
      exact Attempt.submission_of? image maps part []
  · rw [submission?_of_not_program program, ite_self]
    split
    · rfl
    · exact (Attempt.submission_of? image maps part []).trans (submission?_of_not_program program _)

/-- A load attempts the programs of the plan, in the order of the plan. -/
theorem map_attempts (once : TargetsOnce image) (unnamed : RelocationsUnnamed image) :
    (attempts image maps).map (·.submission image maps) = planned image maps := by
  rw [attempts, planned, List.map_append, List.map_filterMap]
  refine congrArg₂ _ (map_relocatedAttempts once) ?_
  exact List.filterMap_congr fun part present => submission_remainingAttempt? unnamed present

end

end Load

end ProbeStream
