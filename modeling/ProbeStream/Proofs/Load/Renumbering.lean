import Mathlib.Data.List.Forall2
import Mathlib.Data.List.Sort
import Mathlib.Logic.Equiv.Basic
import ProbeStream.Proofs.Load.Course

/-!
# Sections under other numbers

A load goes through the sections in the order of their numbers, symbols and relocation sections
refer to sections by their numbers, and the first pass keeps the last section of a name. Still, it
does not matter where the metadata stands: if the sections are given other numbers, and all
references with them, the load does the same (`loadImage_renumbered`), as long as

- the relocation sections keep their order, and so do the sections with the name of a program, for
  in this order programs are attached;
- there is at most one section `license`, `version` and `maps` each, and none is malformed.

So these sections count for programs in front of them too.

The proof goes through both loads at once. The first passes are equal, since each depends on the
three sections only (`readSections_eq`). The second passes go over lists that are renumbered section
by section, and leave images that are again renumbered (`alike_attachRelocated`), so that the third
ones go over such lists as well.
-/

namespace ProbeStream

namespace Elf

/-! ## Renumbered images -/

/-- A symbol whose section has a new number. -/
def Symbol.renumber (renumber : Equiv.Perm Nat) (symbol : Symbol) : Symbol :=
  { symbol with sectionNumber := renumber symbol.sectionNumber }

/-- The same section under its new number. A relocation section targets the new number of its
target. -/
structure Section.Renumbered (renumber : Equiv.Perm Nat) (part other : Section) : Prop where
  number : other.number = renumber part.number
  name : other.name = part.name
  type : other.type = part.type
  data : other.data = part.data
  relocations : other.relocations = part.relocations
  target : part.isRelocation → other.info.toNat = renumber part.info.toNat

namespace Image

/-- The sections of a kind stand in the same order under their new numbers. -/
def KeepsOrder (renumber : Equiv.Perm Nat) (image : Image) (kind : Section → Bool) : Prop :=
  ∀ first ∈ image.sections, ∀ second ∈ image.sections, kind first → kind second →
    first.number < second.number → renumber first.number < renumber second.number

instance (renumber : Equiv.Perm Nat) (image : Image) (kind : Section → Bool) :
    Decidable (image.KeepsOrder renumber kind) :=
  inferInstanceAs (Decidable (∀ _ ∈ _, ∀ _ ∈ _, _ → _ → _ → _))

/-- The same image with its sections under new numbers. Relocation sections keep their order, and so
do programs. -/
structure Renumbered (renumber : Equiv.Perm Nat) (image other : Image) : Prop where
  order : other.order = image.order
  symbols : other.symbols = image.symbols.map (·.map (Symbol.renumber renumber))
  sections : ∀ number, Option.Rel (Section.Renumbered renumber) (image.section? number)
    (other.section? (renumber number))
  relocations : image.KeepsOrder renumber (·.isRelocation)
  programs : image.KeepsOrder renumber fun part => Bpf.Category.isProgramSection part.name

/-- The section that stands under the new number of a section, or the section itself. -/
def partner (renumber : Equiv.Perm Nat) (other : Image) (part : Section) : Section :=
  (other.section? (renumber part.number)).getD part

end Image

variable {renumber : Equiv.Perm Nat} {part otherPart : Section} {image other : Image}

theorem Section.Renumbered.isRelocation (same : Section.Renumbered renumber part otherPart) :
    otherPart.isRelocation = part.isRelocation := by
  rw [Section.isRelocation, same.type, Section.isRelocation]

/-- The order of a kind is not a matter of the bytes, if the kind is not. -/
theorem Image.KeepsOrder.withData {kind : Section → Bool} (keeps : image.KeepsOrder renumber kind)
    (blind : ∀ (part : Section) (data : Bytes), kind { part with data := data } = kind part)
    (number : Nat) (data : Bytes) : (image.withData number data).KeepsOrder renumber kind := by
  have before {part : Section} (present : part ∈ (image.withData number data).sections) :
      ∃ origin ∈ image.sections, origin.number = part.number ∧ kind origin = kind part := by
    have found := section?_eq_some_iff.mpr ⟨present, rfl⟩
    rw [section?_withData] at found
    split at found
    · obtain ⟨origin, here, rfl⟩ := Option.map_eq_some_iff.mp found
      exact ⟨origin, (section?_eq_some_iff.mp here).1, rfl, (blind origin data).symm⟩
    · exact ⟨part, (section?_eq_some_iff.mp found).1, rfl, rfl⟩
  intro first here second there isKind isKindToo
  obtain ⟨origin, present, number, kindOf⟩ := before here
  obtain ⟨originToo, presentToo, numberToo, kindOfToo⟩ := before there
  rw [← number, ← numberToo]
  exact keeps origin present originToo presentToo (kindOf.trans isKind) (kindOfToo.trans isKindToo)

namespace Image.Renumbered

theorem exists_renumbered (same : image.Renumbered renumber other) {number : Nat}
    (found : image.section? number = some part) :
    ∃ otherPart, other.section? (renumber number) = some otherPart ∧
      Section.Renumbered renumber part otherPart := by
  have related := same.sections number
  rw [found] at related
  cases otherFound : other.section? (renumber number) with
  | none =>
    rw [otherFound] at related
    cases related
  | some otherPart =>
    rw [otherFound] at related
    cases related with
    | some renumbered => exact ⟨otherPart, rfl, renumbered⟩

theorem section?_eq_none (same : image.Renumbered renumber other) {number : Nat}
    (absent : image.section? number = none) : other.section? (renumber number) = none := by
  have related := same.sections number
  rw [absent] at related
  cases otherFound : other.section? (renumber number) with
  | none => rfl
  | some otherPart =>
    rw [otherFound] at related
    cases related

theorem exists_origin (same : image.Renumbered renumber other)
    (present : otherPart ∈ other.sections) :
    ∃ part ∈ image.sections, Section.Renumbered renumber part otherPart := by
  have found := section?_eq_some_iff.mpr ⟨present, rfl⟩
  rw [← renumber.apply_symm_apply otherPart.number] at found
  cases before : image.section? (renumber.symm otherPart.number) with
  | none =>
    rw [same.section?_eq_none before] at found
    cases found
  | some part =>
    obtain ⟨renumbered, here, related⟩ := same.exists_renumbered before
    obtain rfl := Option.some.inj (found.symm.trans here)
    exact ⟨part, (section?_eq_some_iff.mp before).1, related⟩

theorem partner_spec (same : image.Renumbered renumber other) (present : part ∈ image.sections) :
    partner renumber other part ∈ other.sections ∧
      Section.Renumbered renumber part (partner renumber other part) := by
  obtain ⟨otherPart, found, related⟩ :=
    same.exists_renumbered (section?_eq_some_iff.mpr ⟨present, rfl⟩)
  rw [partner, found]
  exact ⟨(section?_eq_some_iff.mp found).1, related⟩

/-- Sections of a kind whose order is kept still ascend under their new numbers. -/
theorem ascending_partners (same : image.Renumbered renumber other) {kind : Section → Bool}
    (keeps : image.KeepsOrder renumber kind) :
    ((image.sections.filter kind).map (partner renumber other)).Pairwise
      fun first second => first.number < second.number := by
  rw [List.pairwise_map]
  refine (image.ascending_sections.filter kind).imp_of_mem ?_
  intro first second here there less
  obtain ⟨inImage, isKind⟩ := List.mem_filter.mp here
  obtain ⟨inImageToo, isKindToo⟩ := List.mem_filter.mp there
  rw [(same.partner_spec inImage).2.number, (same.partner_spec inImageToo).2.number]
  exact keeps first inImage second inImageToo isKind isKindToo less

/-- The sections of a kind whose order is kept go with each other one by one. -/
theorem forall₂_filter (same : image.Renumbered renumber other) {kind : Section → Bool}
    (respects : ∀ {part otherPart}, Section.Renumbered renumber part otherPart →
      kind otherPart = kind part)
    (keeps : image.KeepsOrder renumber kind) :
    List.Forall₂ (Section.Renumbered renumber) (image.sections.filter kind)
      (other.sections.filter kind) := by
  have irreflexive : Std.Irrefl fun first second : Section => first.number < second.number :=
    ⟨fun part => Nat.lt_irrefl part.number⟩
  have antisymmetric : Std.Antisymm fun first second : Section => first.number < second.number :=
    ⟨fun _ _ less more => absurd less (Nat.lt_asymm more)⟩
  -- both lists ascend, so it is enough that they have the same members
  have partners : other.sections.filter kind =
      (image.sections.filter kind).map (partner renumber other) := by
    refine (other.ascending_sections.filter kind).eq_of_mem_iff (same.ascending_partners keeps)
      fun otherPart => ?_
    rw [List.mem_filter, List.mem_map]
    constructor
    · rintro ⟨present, isKind⟩
      obtain ⟨part, origin, related⟩ := same.exists_origin present
      obtain ⟨partnerPresent, partnerRelated⟩ := same.partner_spec origin
      refine ⟨part, List.mem_filter.mpr ⟨origin, respects related ▸ isKind⟩, ?_⟩
      exact eq_of_number_eq partnerPresent present
        (partnerRelated.number.trans related.number.symm)
    · rintro ⟨part, present, rfl⟩
      obtain ⟨inImage, isKind⟩ := List.mem_filter.mp present
      obtain ⟨partnerPresent, related⟩ := same.partner_spec inImage
      exact ⟨partnerPresent, (respects related).trans isKind⟩
  rw [partners, List.forall₂_map_right_iff, List.forall₂_same]
  intro part present
  exact (same.partner_spec (List.mem_filter.mp present).1).2

/-- New bytes for one section on both sides. -/
theorem withData (same : image.Renumbered renumber other) (number : Nat) (data : Bytes) :
    (image.withData number data).Renumbered renumber (other.withData (renumber number) data) where
  order := same.order
  symbols := same.symbols
  sections place := by
    rw [section?_withData, section?_withData]
    simp only [renumber.apply_eq_iff_eq]
    split
    · cases found : image.section? place with
      | none =>
        rw [same.section?_eq_none found]
        exact .none
      | some part =>
        obtain ⟨otherPart, otherFound, related⟩ := same.exists_renumbered found
        rw [otherFound]
        exact .some ⟨related.number, related.name, related.type, rfl, related.relocations,
          related.target⟩
    · exact same.sections place
  relocations := same.relocations.withData (fun _ _ => rfl) number data
  programs := same.programs.withData (fun _ _ => rfl) number data

end Image.Renumbered

end Elf

namespace Load

variable {σ α β γ δ : Type} {renumber : Equiv.Perm Nat} {part otherPart : Elf.Section}
  {image other : Elf.Image}

/-! ## Steps that do the same -/

/-- The same error or related results, and the same session. -/
inductive EndAlike (related : α → β → Prop) :
    Except LoadError α × Session σ → Except LoadError β × Session σ → Prop
  | error (failure : LoadError) (session : Session σ) :
    EndAlike related (.error failure, session) (.error failure, session)
  | ok {result : α} {other : β} (same : related result other) (session : Session σ) :
    EndAlike related (.ok result, session) (.ok other, session)

/-- Whatever the session, both steps do the same to it, and end with the same error or with related
results. -/
def Alike (related : α → β → Prop) (step : Load σ α) (other : Load σ β) : Prop :=
  ∀ session, EndAlike related (step session) (other session)

namespace Alike

variable {related : α → β → Prop} {goal : γ → δ → Prop}

theorem pure {result : α} {other : β} (same : related result other) :
    Alike (σ := σ) related (pure result) (pure other) := fun session => .ok same session

theorem refl (step : Load σ α) : Alike Eq step step := by
  intro session
  obtain ⟨result, after⟩ := step session
  cases result with
  | error failure => exact .error failure after
  | ok value => exact .ok rfl after

theorem bind {step : Load σ α} {other : Load σ β} (first : Alike related step other)
    {next : α → Load σ γ} {otherNext : β → Load σ δ}
    (goesOn : ∀ result otherResult, related result otherResult →
      Alike goal (next result) (otherNext otherResult)) :
    Alike goal (step >>= next) (other >>= otherNext) := by
  intro session
  show EndAlike goal (ExceptT.bindCont next (step session).1 (step session).2)
    (ExceptT.bindCont otherNext (other session).1 (other session).2)
  have ends := first session
  generalize step session = ended, other session = otherEnded at ends ⊢
  cases ends with
  | error failure after => exact .error failure after
  | ok same after => exact goesOn _ _ same after

theorem eq {step other : Load σ α} (same : Alike Eq step other) : other = step := by
  funext session
  have ends := same session
  generalize step session = ended, other session = otherEnded at ends ⊢
  cases ends with
  | error failure after => rfl
  | ok same after => rw [same]

end Alike

/-! ## The first pass -/

/-- The names of the sections that say something about the whole object. -/
def metadataNames : List String := ["license", "version", "maps"]

/-- There is at most one section of each of these names, and none of them is malformed. -/
structure MetadataOnce (image : Elf.Image) : Prop where
  once : ∀ first ∈ image.sections, ∀ second ∈ image.sections, first.name ∈ metadataNames →
    second.name = first.name → second = first
  wellFormed : ∀ part ∈ image.sections, isMalformed part = false

/-- The first section of a name. -/
def named? (parts : List Elf.Section) (name : String) : Option Elf.Section :=
  parts.find? (·.name == name)

/-- The maps of the section that defines them. -/
def readNamedMaps (kernel : Kernel σ) (image : Elf.Image) :
    Option Elf.Section → Bpf.MapTable → Load σ Bpf.MapTable
  | none, maps => pure maps
  | some part, _ => readMaps kernel image part

/-- What the first pass finds if each name occurs only once. -/
def readNamed (kernel : Kernel σ) (image : Elf.Image) (parts : List Elf.Section)
    (found : Metadata) : Load σ Metadata := do
  let maps ← readNamedMaps kernel image (named? parts "maps") found.maps
  return {
    license := ((named? parts "license").map fun part => licenseText part.data).getD found.license
    kernelVersion := ((named? parts "version").map fun part =>
      image.order.u32At part.data 0).getD found.kernelVersion
    maps }

theorem named?_cons_self {parts : List Elf.Section} {name : String} (is : part.name = name) :
    named? (part :: parts) name = some part := by
  rw [named?, List.find?_cons_of_pos (by simpa using is)]

theorem named?_cons_of_ne {parts : List Elf.Section} {name : String} (other : part.name ≠ name) :
    named? (part :: parts) name = named? parts name := by
  rw [named?, List.find?_cons_of_neg (by simpa using other), named?]

theorem readSections_eq (kernel : Kernel σ) (image : Elf.Image) {parts : List Elf.Section}
    (once : parts.Pairwise fun first second =>
      first.name ∈ metadataNames → second.name ≠ first.name)
    (wellFormed : ∀ part ∈ parts, isMalformed part = false) (found : Metadata) :
    readSections kernel image parts found = readNamed kernel image parts found := by
  induction parts generalizing found with
  | nil => rfl
  | cons part rest ih =>
    obtain ⟨alone, once⟩ := List.pairwise_cons.mp once
    obtain ⟨good, wellFormed⟩ := List.forall_mem_cons.mp wellFormed
    -- the loop keeps the last section of a name, `named?` takes the first: there is no later one
    have absent {name : String} (is : part.name = name) (member : name ∈ metadataNames) :
        named? rest name = none := by
      rw [named?, List.find?_eq_none]
      intro later present
      have differs := alone later present (is ▸ member)
      simpa [is] using differs
    rw [readSections, funext (ih once wellFormed), readSection]
    by_cases license : part.name = "license"
    · have noVersion : part.name ≠ "version" := by simp [license]
      have noMaps : part.name ≠ "maps" := by simp [license]
      rw [if_pos license, pure_bind, readNamed, readNamed, named?_cons_self license,
        named?_cons_of_ne noVersion, named?_cons_of_ne noMaps,
        absent license (by decide)]
      rfl
    rw [if_neg license]
    by_cases version : part.name = "version"
    · have noMaps : part.name ≠ "maps" := by simp [version]
      have size : part.data.length = 4 := by simpa [isMalformed, version] using good
      rw [if_pos version, readVersion, if_pos size, pure_bind, pure_bind, readNamed, readNamed,
        named?_cons_of_ne license, named?_cons_self version, named?_cons_of_ne noMaps,
        absent version (by decide)]
      rfl
    rw [if_neg version]
    by_cases maps : part.name = "maps"
    · rw [if_pos maps, bind_assoc, readNamed, named?_cons_of_ne license, named?_cons_of_ne version,
        named?_cons_self maps]
      refine bind_congr fun table => ?_
      rw [pure_bind, readNamed, absent maps (by decide)]
      rfl
    · rw [if_neg maps, pure_bind, readNamed, readNamed, named?_cons_of_ne license,
        named?_cons_of_ne version, named?_cons_of_ne maps]

theorem MetadataOnce.readSections_eq (once : MetadataOnce image) (kernel : Kernel σ)
    (found : Metadata) :
    readSections kernel image image.sections found =
      readNamed kernel image image.sections found := by
  refine Load.readSections_eq kernel image ?_ once.wellFormed found
  refine image.pairwise_sections.imp_of_mem ?_
  intro first second here there apart member same
  exact apart (congrArg _ (once.once first here second there member same)).symm

/-- The names of the maps do not tell where their section stands. -/
theorem mapNames_renumber (renumber : Equiv.Perm Nat) (symbols : List Elf.Symbol)
    (holder count : Nat) :
    Bpf.mapNames (symbols.map (Elf.Symbol.renumber renumber)) (renumber holder) count =
      Bpf.mapNames symbols holder count := by
  rw [Bpf.mapNames, Bpf.mapNames, List.foldl_map]
  congr 1
  funext names symbol
  simp only [Bpf.nameMap, Elf.Symbol.renumber, renumber.apply_eq_iff_eq, Bpf.mapIndex]

section

variable (same : image.Renumbered renumber other)

include same

theorem readMaps_renumbered (kernel : Kernel σ)
    (samePart : Elf.Section.Renumbered renumber part otherPart) :
    readMaps kernel other otherPart = readMaps kernel image part := by
  rw [readMaps, readMaps, samePart.data, same.order, same.symbols, samePart.number]
  cases image.symbols with
  | none => rfl
  | some symbols => simp only [Option.map_some, mapNames_renumber]

theorem MetadataOnce.renumbered (once : MetadataOnce image) : MetadataOnce other where
  once first here second there member sameName := by
    obtain ⟨origin, present, related⟩ := same.exists_origin here
    obtain ⟨originToo, presentToo, relatedToo⟩ := same.exists_origin there
    have name : originToo.name = origin.name := by
      rw [← related.name, ← relatedToo.name, sameName]
    obtain rfl := once.once origin present originToo presentToo (related.name ▸ member) name
    exact Elf.Image.eq_of_number_eq there here (relatedToo.number.trans related.number.symm)
  wellFormed part present := by
    obtain ⟨origin, inImage, related⟩ := same.exists_origin present
    rw [isMalformed, related.name, related.data]
    exact once.wellFormed origin inImage

/-- The section of a name is the same one on both sides. -/
theorem named?_renumbered (once : MetadataOnce image) {name : String}
    (member : name ∈ metadataNames) :
    Option.Rel (Elf.Section.Renumbered renumber) (named? image.sections name)
      (named? other.sections name) := by
  cases found : named? image.sections name with
  | none =>
    rw [named?, List.find?_eq_none] at found
    have absent : named? other.sections name = none := by
      rw [named?, List.find?_eq_none]
      intro otherPart present
      obtain ⟨part, origin, related⟩ := same.exists_origin present
      rw [related.name]
      exact found part origin
    rw [absent]
    exact .none
  | some part =>
    have present := List.mem_of_find?_eq_some found
    have isNamed : part.name = name := by simpa using List.find?_some found
    cases otherFound : named? other.sections name with
    | none =>
      rw [named?, List.find?_eq_none] at otherFound
      obtain ⟨partnerPresent, related⟩ := same.partner_spec present
      have impossible := otherFound _ partnerPresent
      rw [related.name, isNamed] at impossible
      simp at impossible
    | some otherPart =>
      obtain ⟨origin, originPresent, related⟩ :=
        same.exists_origin (List.mem_of_find?_eq_some otherFound)
      have isNamedToo : otherPart.name = name := by simpa using List.find?_some otherFound
      obtain rfl := once.once part present origin originPresent (isNamed ▸ member)
        ((related.name.symm.trans isNamedToo).trans isNamed.symm)
      exact .some related

theorem readNamed_renumbered (kernel : Kernel σ) (once : MetadataOnce image) (found : Metadata) :
    readNamed kernel other other.sections found = readNamed kernel image image.sections found := by
  have data {name : String} (member : name ∈ metadataNames) {α : Type} (read : Bytes → α) :
      (named? other.sections name).map (fun part => read part.data) =
        (named? image.sections name).map fun part => read part.data := by
    have related := named?_renumbered same once member
    generalize named? image.sections name = first, named? other.sections name = second
      at related ⊢
    cases related with
    | none => rfl
    | some related => rw [Option.map_some, Option.map_some, related.data]
  have maps : readNamedMaps kernel other (named? other.sections "maps") found.maps =
      readNamedMaps kernel image (named? image.sections "maps") found.maps := by
    have related := named?_renumbered same once (show "maps" ∈ metadataNames by decide)
    generalize named? image.sections "maps" = first, named? other.sections "maps" = second
      at related ⊢
    cases related with
    | none => rfl
    | some related => exact readMaps_renumbered same kernel related
  rw [readNamed, readNamed, same.order, maps, data (by decide) licenseText,
    data (by decide) fun data => image.order.u32At data 0]

theorem readMetadata_renumbered (kernel : Kernel σ) (once : MetadataOnce image) :
    readMetadata kernel other = readMetadata kernel image := by
  rw [readMetadata, readMetadata, (once.renumbered same).readSections_eq, once.readSections_eq,
    readNamed_renumbered same kernel once]

end

/-! ## Programs -/

/-- References are resolved by the values of the symbols. -/
theorem relocate_renumber (renumber : Equiv.Perm Nat) (order : ByteOrder) (program : Bytes)
    (entries : List Elf.Relocation) (symbols : List Elf.Symbol) (maps : Bpf.MapTable) :
    Bpf.relocate order program entries (symbols.map (Elf.Symbol.renumber renumber)) maps =
      Bpf.relocate order program entries symbols maps := by
  have entry (entry : Elf.Relocation) :
      Bpf.resolveEntry program (symbols.map (Elf.Symbol.renumber renumber)) maps entry =
        Bpf.resolveEntry program symbols maps entry := by
    simp only [Bpf.resolveEntry, List.getElem?_map]
    cases symbols[entry.symbol]? <;> rfl
  have all : Bpf.resolveEntries program (symbols.map (Elf.Symbol.renumber renumber)) maps entries =
      Bpf.resolveEntries program symbols maps entries := by
    induction entries with
    | nil => rfl
    | cons first rest ih => rw [Bpf.resolveEntries, entry, ih, Bpf.resolveEntries]
  rw [Bpf.relocate, all, Bpf.relocate]

theorem attachSection_renumbered (kernel : Kernel σ) (attacher : Attacher)
    (same : Elf.Section.Renumbered renumber part otherPart) (programs : List LoadedProgram) :
    attachSection kernel attacher otherPart programs =
      attachSection kernel attacher part programs := by
  rw [attachSection, same.name, same.data, attachSection]

section

variable {relocation otherRelocation target otherTarget : Elf.Section}

theorem alike_resolve (same : image.Renumbered renumber other) (maps : Bpf.MapTable)
    (sameRelocation : Elf.Section.Renumbered renumber relocation otherRelocation)
    (sameTarget : Elf.Section.Renumbered renumber target otherTarget) :
    Alike (Option.Rel (Elf.Section.Renumbered renumber))
      (resolve image maps relocation target : Load σ _)
      (resolve other maps otherRelocation otherTarget) := by
  rw [resolve, resolve, same.symbols, same.order, sameTarget.data, sameTarget.name,
    sameRelocation.relocations]
  cases image.symbols with
  | none => exact fun session => .error _ session
  | some symbols =>
    rw [Option.map_some]
    dsimp only
    rw [relocate_renumber]
    split
    · exact (Alike.refl _).bind fun _ _ _ => .pure .none
    · refine (Alike.refl _).bind fun _ _ _ => (Alike.refl _).bind fun _ _ _ => .pure (.some ?_)
      exact ⟨sameTarget.number, rfl, sameTarget.type, rfl, sameTarget.relocations,
        sameTarget.target⟩

theorem mark_renumbered
    (sameRelocation : Elf.Section.Renumbered renumber relocation otherRelocation)
    (isRelocation : relocation.isRelocation) (done : List Nat) :
    mark (done.map renumber) otherRelocation = (mark done relocation).map renumber := by
  rw [mark, sameRelocation.number, sameRelocation.target isRelocation, mark, List.map_append,
    List.map_cons, List.map_singleton]

/-- The second passes do the same, and leave renumbered images, renumbered marks and the same
programs. -/
theorem alike_attachRelocated (kernel : Kernel σ) (attacher : Attacher) (maps : Bpf.MapTable)
    {relocations others : List Elf.Section}
    (sameList : List.Forall₂ (Elf.Section.Renumbered renumber) relocations others)
    (all : ∀ part ∈ relocations, part.isRelocation) (same : image.Renumbered renumber other)
    (done : List Nat) (programs : List LoadedProgram) :
    Alike (fun result otherResult => result.1.Renumbered renumber otherResult.1 ∧
        otherResult.2 = (result.2.1.map renumber, result.2.2))
      (attachRelocated kernel attacher maps relocations image done programs)
      (attachRelocated kernel attacher maps others other (done.map renumber) programs) := by
  -- the images change on the way, but stay renumbered, since both get the same bytes
  induction sameList generalizing image other done programs with
  | nil => exact .pure ⟨same, rfl⟩
  | @cons relocation otherRelocation rest otherRest sameRelocation _ ih =>
    obtain ⟨isRelocation, all⟩ := List.forall_mem_cons.mp all
    rw [attachRelocated, attachRelocated, mark_renumbered sameRelocation isRelocation,
      sameRelocation.target isRelocation]
    cases found : image.section? relocation.info.toNat with
    | none =>
      rw [same.section?_eq_none found]
      exact ih all same done programs
    | some target =>
      obtain ⟨otherTarget, otherFound, sameTarget⟩ := same.exists_renumbered found
      rw [otherFound]
      dsimp only
      rw [sameTarget.name]
      split
      · refine (alike_resolve same maps sameRelocation sameTarget).bind ?_
        intro result otherResult sameResult
        cases sameResult with
        | none => exact ih all same (mark done relocation) programs
        | @some resolved otherResolved sameResolved =>
          dsimp only
          rw [sameTarget.number, sameResolved.data, attachSection_renumbered _ _ sameResolved]
          refine (Alike.refl _).bind ?_
          rintro programs _ rfl
          exact ih all (same.withData target.number resolved.data) (mark done relocation) programs
      · exact (Alike.refl _).bind fun _ _ _ => ih all same (mark done relocation) programs

end

/-- The third pass looks at sections with the name of a program only. -/
theorem attachRemaining_filter (kernel : Kernel σ) (attacher : Attacher) (done : List Nat)
    (parts : List Elf.Section) (programs : List LoadedProgram) :
    attachRemaining kernel attacher done
        (parts.filter fun part => Bpf.Category.isProgramSection part.name) programs =
      attachRemaining kernel attacher done parts programs := by
  induction parts generalizing programs with
  | nil => rfl
  | cons part rest ih =>
    by_cases program : Bpf.Category.isProgramSection part.name
    · rw [List.filter_cons, if_pos program, attachRemaining, attachRemaining, funext ih]
    · rw [List.filter_cons, if_neg program, ih, attachRemaining, if_neg fun both => program both.2]

theorem attachRemaining_renumbered (kernel : Kernel σ) (attacher : Attacher)
    {parts others : List Elf.Section}
    (sameList : List.Forall₂ (Elf.Section.Renumbered renumber) parts others)
    (done : List Nat) (programs : List LoadedProgram) :
    attachRemaining kernel attacher (done.map renumber) others programs =
      attachRemaining kernel attacher done parts programs := by
  induction sameList generalizing programs with
  | nil => rfl
  | cons same _ ih =>
    rw [attachRemaining, attachRemaining, attachSection_renumbered _ _ same, same.name, same.number,
      funext ih]
    simp only [List.mem_map_of_injective renumber.injective]

/-! ## The whole load -/

theorem attachPrograms_renumbered (kernel : Kernel σ) (tracefs : Tracefs)
    (same : image.Renumbered renumber other) (found : Metadata) :
    attachPrograms kernel tracefs other found = attachPrograms kernel tracefs image found := by
  refine Alike.eq ?_
  have relocations := same.forall₂_filter (fun part => part.isRelocation) same.relocations
  refine (alike_attachRelocated kernel _ found.maps relocations
    (fun part member => (List.mem_filter.mp member).2) same [] []).bind ?_
  rintro ⟨patched, done, programs⟩ ⟨otherPatched, _⟩ ⟨samePatched, rfl⟩
  have parts := samePatched.forall₂_filter (fun part => by rw [part.name]) samePatched.programs
  dsimp only
  -- other sections may have changed places, so only those that the pass looks at are compared
  rw [← attachRemaining_filter _ _ _ otherPatched.sections, attachRemaining_renumbered _ _ parts,
    attachRemaining_filter]
  exact Alike.refl _

/-- Whatever the kernel and the tracing directory: if there is at most one section `license`,
`version` and `maps` each, and none is malformed, a load does the same and ends alike when the
sections stand under other numbers. -/
theorem loadImage_renumbered (same : image.Renumbered renumber other) (once : MetadataOnce image)
    (kernel : Kernel σ) (tracefs : Tracefs) (session : Session σ) :
    loadImage kernel tracefs other session = loadImage kernel tracefs image session := by
  have same : passes kernel tracefs other = passes kernel tracefs image := by
    rw [passes, passes, prepare, prepare, readMetadata_renumbered same kernel once,
      funext (attachPrograms_renumbered kernel tracefs same)]
  rw [loadImage, loadImage, same]

/-! ## Metadata behind the programs -/

/-- The license, the version and the maps stand in front of two programs, of which one refers to the
map. -/
def leadingImage : Elf.Image where
  order := .little
  slots := [none,
    some ⟨1, "license", 1, 0, Utf8.encode "GPL", []⟩,
    some ⟨2, "version", 1, 0, [7, 0, 0, 0], []⟩,
    some ⟨3, "maps", 1, 0, List.replicate 20 1, []⟩,
    some ⟨4, "xdp", 1, 0, loadInstruction ++ exitInstruction, []⟩,
    some ⟨5, ".relxdp", Elf.typeRelocation, 4, [0], [⟨0, 0⟩]⟩,
    some ⟨6, "socket", 1, 0, exitInstruction, []⟩]
  symbols := some [⟨"table", 3, 0⟩]
  numbered := by
    intro number part found
    rcases number with _ | _ | _ | _ | _ | _ | _ | number <;> simp at found <;> simp [← found]

/-- The same image with the programs in front. -/
def trailingImage : Elf.Image where
  order := .little
  slots := [none,
    some ⟨1, "xdp", 1, 0, loadInstruction ++ exitInstruction, []⟩,
    some ⟨2, ".relxdp", Elf.typeRelocation, 1, [0], [⟨0, 0⟩]⟩,
    some ⟨3, "socket", 1, 0, exitInstruction, []⟩,
    some ⟨4, "license", 1, 0, Utf8.encode "GPL", []⟩,
    some ⟨5, "version", 1, 0, [7, 0, 0, 0], []⟩,
    some ⟨6, "maps", 1, 0, List.replicate 20 1, []⟩]
  symbols := some [⟨"table", 6, 0⟩]
  numbered := by
    intro number part found
    rcases number with _ | _ | _ | _ | _ | _ | _ | number <;> simp at found <;> simp [← found]

/-- The first three sections change places with the last three. -/
def toTrailing : Equiv.Perm Nat :=
  ((Equiv.swap 1 4).trans (Equiv.swap 2 5)).trans (Equiv.swap 3 6)

theorem renumbered_trailingImage : leadingImage.Renumbered toTrailing trailingImage where
  order := rfl
  symbols := rfl
  sections number := by
    rcases number with _ | _ | _ | _ | _ | _ | _ | number
    · exact .none
    iterate 6 exact .some ⟨rfl, rfl, rfl, rfl, rfl, by decide⟩
    have fixed : toTrailing (number + 7) = number + 7 := by
      simp [toTrailing, Equiv.swap_apply_def]
    rw [fixed]
    exact .none
  relocations := by decide +kernel
  programs := by decide +kernel

/-- The programs in front are submitted with the license and the version from behind, just as they
are submitted behind them. -/
theorem loadImage_renumbered_trailingImage :
    leadingImage.Renumbered toTrailing trailingImage ∧ MetadataOnce leadingImage ∧
      let outcome := loadImage willingKernel ⟨"/tracing"⟩ trailingImage (.start 0 .scratch)
      outcome = loadImage willingKernel ⟨"/tracing"⟩ leadingImage (.start 0 .scratch) ∧
      (submissions outcome.2.calls).map (fun request =>
          (request.sectionName, request.license, request.kernelVersion)) =
        [("xdp", "GPL", 7), ("socket", "GPL", 7)] := by
  have once : MetadataOnce leadingImage := ⟨by decide +kernel, by decide +kernel⟩
  refine ⟨renumbered_trailingImage, once, ?_, by decide +kernel⟩
  exact loadImage_renumbered renumbered_trailingImage once willingKernel ⟨"/tracing"⟩
    (.start 0 .scratch)

end Load

end ProbeStream
