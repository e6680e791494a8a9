import ProbeStream.Elf.Layout
import ProbeStream.Proofs.Elf.Scan
import ProbeStream.Proofs.Load.Course

/-!
# Programs with unresolved references

A program that is submitted has the entries of its attempt resolved, and nothing else was changed.
These need not be all entries that the file has for the program (`Resolved`), for two reasons:

- A relocation section of the file that is not usable is not in the image. The program is then
  attached by the third pass as it is, or with the entries of other relocation sections.
- If several relocation sections target one program, it is attached after each of them.

`resolved_iff` is the exact condition: the file's relocation sections for the program are all
usable, the entries of the first one are good, and the other ones have no entries but these.

In `misfitFile` a relocation section ends in the middle of an entry. Its program is submitted with a
reference that is not resolved.
-/

namespace ProbeStream.Load

variable {σ : Type} {image : Elf.Image} {maps : Bpf.MapTable} {file : Bytes} {attempt : Attempt}
  {part : Elf.Section}

/-- The relocation sections of an image that target a section. -/
def relocationsOf (image : Elf.Image) (part : Elf.Section) : List Elf.Section :=
  (relocationSections image).filter (·.info.toNat == part.number)

/-- Every relocation section that the file has for a program is in the image, and its entries are
among those that are resolved in this attempt. -/
def Resolved (file : Bytes) (image : Elf.Image) (attempt : Attempt) : Prop :=
  ∀ number, Elf.IsRelocationFor file attempt.part.number number →
    ∃ relocation, image.section? number = some relocation ∧
      relocation.relocations ⊆ attempt.entries

/-- The relocation sections that the file has for a section are all usable, the entries of the first
one are good, and all entries of the others are among them. -/
def FirstSuffices (file : Bytes) (image : Elf.Image) (maps : Bpf.MapTable) (part : Elf.Section) :
    Prop :=
  (∀ number, Elf.IsRelocationFor file part.number number → Elf.IsUsable file number) ∧
    match relocationsOf image part with
    | [] => True
    | first :: rest => AllGood image maps part first.relocations ∧
        ∀ other ∈ rest, other.relocations ⊆ first.relocations

/-! ## The first attempt for a program -/

theorem find?_relocationSections :
    (relocationSections image).find? (resolves image maps · part) =
      (relocationsOf image part).find? (resolves image maps · part) := by
  rw [relocationsOf, List.find?_filter]
  congr 1
  funext relocation
  by_cases resolved : resolves image maps relocation part
  · simp [resolved, (resolves_iff.mp resolved).1]
  · simp [resolved]

theorem entriesFor_eq_nil {relocations : List Elf.Section}
    (none : ∀ relocation ∈ relocations, resolves image maps relocation part = false) :
    entriesFor image maps relocations part = [] := by
  rw [entriesFor, List.filter_eq_nil_iff.mpr]
  · rfl
  · intro relocation member
    rw [none relocation member]
    exact Bool.false_ne_true

/-- If an attempt for a program was made, then so was the first one, with the entries of the first
relocation section that is resolved in it. -/
theorem exists_first_relocated {earlier relocations : List Elf.Section} {taken : List Attempt}
    (none : ∀ relocation ∈ earlier, resolves image maps relocation attempt.part = false)
    (isPrefix : taken <+: relocatedAttempts image maps earlier relocations)
    (member : attempt ∈ taken) :
    ∃ first ∈ taken, first.part = attempt.part ∧
      ∃ relocation, relocations.find? (resolves image maps · attempt.part) = some relocation ∧
        first.entries = relocation.relocations := by
  induction relocations generalizing earlier taken with
  | nil =>
    rw [List.prefix_nil.mp isPrefix] at member
    cases member
  | cons relocation rest ih =>
    obtain ⟨_, _, _, here⟩ := mem_relocatedAttempts (isPrefix.subset member)
    obtain ⟨present, _, _, named⟩ := relocatedAttempt?_eq_some_iff.mp here
    rw [relocatedAttempts] at isPrefix
    rw [List.find?_cons]
    cases resolved : resolves image maps relocation attempt.part with
    | true =>
      -- the first attempt is the one for this section
      let first : Attempt := ⟨attempt.part, attempt.category,
        entriesFor image maps (earlier ++ [relocation]) attempt.part⟩
      have planned : relocatedAttempt? image maps earlier relocation = some first :=
        relocatedAttempt?_eq_some_iff.mpr ⟨present, resolved, rfl, named⟩
      rw [planned] at isPrefix
      cases taken with
      | nil => cases member
      | cons head others =>
        obtain ⟨rfl, _⟩ := List.cons_prefix_cons.mp isPrefix
        refine ⟨first, List.mem_cons_self, rfl, relocation, rfl, ?_⟩
        show entriesFor image maps (earlier ++ [relocation]) attempt.part = relocation.relocations
        rw [entriesFor_append_of_resolves resolved, entriesFor_eq_nil none, List.nil_append]
    | false =>
      have later : ∀ other ∈ earlier ++ [relocation],
          resolves image maps other attempt.part = false :=
        List.forall_mem_append.mpr ⟨none, List.forall_mem_singleton.mpr resolved⟩
      cases planned : relocatedAttempt? image maps earlier relocation with
      | none =>
        rw [planned] at isPrefix
        exact ih later isPrefix member
      | some other =>
        -- this is an attempt for another program
        rw [planned] at isPrefix
        have apart : attempt ≠ other := by
          rintro rfl
          rw [(relocatedAttempt?_eq_some_iff.mp planned).2.1] at resolved
          cases resolved
        cases taken with
        | nil => cases member
        | cons head others =>
          obtain ⟨rfl, shorter⟩ := List.cons_prefix_cons.mp isPrefix
          have inside := (List.mem_cons.mp member).resolve_left apart
          obtain ⟨first, firstInside, found⟩ := ih later shorter inside
          exact ⟨first, List.mem_cons_of_mem _ firstInside, found⟩

/-- The third pass attaches programs that no relocation section targets. -/
theorem relocationsOf_of_remaining
    (member : attempt ∈ image.sections.filterMap (remainingAttempt? image)) :
    relocationsOf image attempt.part = [] := by
  obtain ⟨part, present, planned⟩ := List.mem_filterMap.mp member
  obtain ⟨free, rfl, _, _⟩ := remainingAttempt?_eq_some_iff.mp planned
  refine List.filter_eq_nil_iff.mpr fun relocation member targets => ?_
  obtain ⟨here, isRelocation⟩ := List.mem_filter.mp member
  have target := beq_iff_eq.mp targets
  refine free (mem_relocatedNumbers.mpr ⟨relocation, here, isRelocation, ?_, .inr target.symm⟩)
  rw [target, Elf.Image.section?_eq_some_iff.mpr ⟨present, rfl⟩]
  rfl

/-- Whatever was attempted for a program, one of the attempts has no entries but those of the first
relocation section that is resolved in it. -/
theorem exists_first {attempted : List Attempt} (isPrefix : attempted <+: attempts image maps)
    (member : attempt ∈ attempted) :
    relocationsOf image attempt.part = [] ∨
      ∃ first ∈ attempted, first.part = attempt.part ∧
        ∃ relocation, (relocationsOf image attempt.part).find?
            (resolves image maps · attempt.part) = some relocation ∧
          first.entries = relocation.relocations := by
  rw [List.prefix_iff_eq_take, attempts, List.take_append] at isPrefix
  rw [isPrefix] at member ⊢
  rcases List.mem_append.mp member with relocated | remaining
  · obtain ⟨first, inside, same, found⟩ :=
      exists_first_relocated (by simp) (List.take_prefix _ _) relocated
    rw [find?_relocationSections] at found
    exact .inr ⟨first, List.mem_append_left _ inside, same, found⟩
  · exact .inl (relocationsOf_of_remaining (List.mem_of_mem_take remaining))

/-- An attempt for a program that is targeted has the entries of the first relocation section for
it, if that is resolved in it. -/
theorem subset_entries (member : attempt ∈ attempts image maps) {first : Elf.Section}
    {rest : List Elf.Section} (targeted : relocationsOf image attempt.part = first :: rest)
    (good : resolves image maps first attempt.part) :
    first.relocations ⊆ attempt.entries := by
  rcases List.mem_append.mp member with relocated | remaining
  · obtain ⟨before, relocation, isPrefix, planned⟩ := mem_relocatedAttempts relocated
    obtain ⟨_, resolved, entries, _⟩ := relocatedAttempt?_eq_some_iff.mp planned
    -- the relocation sections up to this one begin with the first one for the program
    have inside : first ∈ before ++ [relocation] := by
      have shorter := isPrefix.filter (·.info.toNat == attempt.part.number)
      have last : relocation ∈ (before ++ [relocation]).filter
          (·.info.toNat == attempt.part.number) :=
        List.mem_filter.mpr ⟨by simp, beq_iff_eq.mpr (resolves_iff.mp resolved).1⟩
      cases upTo : (before ++ [relocation]).filter (·.info.toNat == attempt.part.number) with
      | nil =>
        rw [upTo] at last
        cases last
      | cons head others =>
        rw [upTo, ← relocationsOf, targeted] at shorter
        obtain ⟨rfl, _⟩ := List.cons_prefix_cons.mp shorter
        exact (List.mem_filter.mp (upTo ▸ List.mem_cons_self)).1
    rw [entries]
    intro entry member
    exact List.mem_flatMap.mpr ⟨first, List.mem_filter.mpr ⟨inside, good⟩, member⟩
  · rw [relocationsOf_of_remaining remaining] at targeted
    cases targeted

/-! ## Attempts that have everything resolved -/

theorem mem_relocationsOf {relocation : Elf.Section} :
    relocation ∈ relocationsOf image part ↔ relocation ∈ image.sections ∧
      relocation.isRelocation ∧ relocation.info.toNat = part.number := by
  rw [relocationsOf, relocationSections, List.mem_filter, List.mem_filter, beq_iff_eq, and_assoc]

/-- The relocation sections of the image belong to the file. -/
theorem Resolved.subset (resolved : Resolved file image attempt)
    (parsed : (Elf.Image.parse file).1 = .ok image) {relocation : Elf.Section}
    (targets : relocation ∈ relocationsOf image attempt.part) :
    relocation.relocations ⊆ attempt.entries := by
  obtain ⟨present, isRelocation, target⟩ := mem_relocationsOf.mp targets
  have inFile := Elf.Image.isRelocationFor_of_mem parsed present isRelocation
  rw [target] at inFile
  obtain ⟨same, found, subset⟩ := resolved relocation.number inFile
  rw [Elf.Image.section?_eq_some_iff.mpr ⟨present, rfl⟩] at found
  obtain rfl := Option.some.inj found
  exact subset

theorem firstSuffices_of_resolved (parsed : (Elf.Image.parse file).1 = .ok image)
    {attempted : List Attempt} (isPrefix : attempted <+: attempts image maps)
    (all : ∀ attempt ∈ attempted, Resolved file image attempt) (member : attempt ∈ attempted) :
    FirstSuffices file image maps attempt.part := by
  refine ⟨fun number inFile => ?_, ?_⟩
  · obtain ⟨relocation, found, _⟩ := all attempt member number inFile
    exact (Elf.Image.isSome_section?_iff parsed inFile.1).mp (Option.isSome_of_eq_some found)
  rcases exists_first isPrefix member with none | ⟨first, inside, same, relocation, found, entries⟩
  · rw [none]
    trivial
  cases targeted : relocationsOf image attempt.part with
  | nil => trivial
  | cons head rest =>
    have subset {other : Elf.Section} (targets : other ∈ head :: rest) :
        other.relocations ⊆ first.entries := by
      rw [← targeted, ← same] at targets
      exact (all first inside).subset parsed targets
    have good := allGood_of_mem_attempts (isPrefix.subset inside)
    rw [same] at good
    have headGood : AllGood image maps attempt.part head.relocations :=
      fun entry here => good entry (subset List.mem_cons_self here)
    -- so the first relocation section is the one that was resolved first
    have resolved : resolves image maps head attempt.part := by
      obtain ⟨_, named, _⟩ := mem_attempts (isPrefix.subset member)
      have program := (Bpf.Category.exists_category_iff.mp ⟨_, named⟩).1
      have target := (mem_relocationsOf.mp (targeted ▸ List.mem_cons_self)).2.2
      exact resolves_iff.mpr ⟨target, program, headGood⟩
    rw [targeted, List.find?_cons, resolved] at found
    obtain rfl := Option.some.inj found
    exact ⟨headGood, fun other targets => entries ▸ subset (List.mem_cons_of_mem _ targets)⟩

theorem resolved_of_firstSuffices (parsed : (Elf.Image.parse file).1 = .ok image)
    (member : attempt ∈ attempts image maps)
    (enough : FirstSuffices file image maps attempt.part) : Resolved file image attempt := by
  obtain ⟨usable, first⟩ := enough
  obtain ⟨_, named, _⟩ := mem_attempts member
  intro number inFile
  obtain ⟨relocation, found⟩ := Option.isSome_iff_exists.mp
    ((Elf.Image.isSome_section?_iff parsed inFile.1).mpr (usable number inFile))
  refine ⟨relocation, found, ?_⟩
  obtain ⟨isRelocation, target⟩ := Elf.Image.isRelocation_of_section? parsed inFile found
  have targets : relocation ∈ relocationsOf image attempt.part :=
    mem_relocationsOf.mpr ⟨(Elf.Image.section?_eq_some_iff.mp found).1, isRelocation, target⟩
  cases targeted : relocationsOf image attempt.part with
  | nil =>
    rw [targeted] at targets
    cases targets
  | cons head rest =>
    rw [targeted] at first targets
    have program := (Bpf.Category.exists_category_iff.mp ⟨_, named⟩).1
    have headTarget := (mem_relocationsOf.mp (targeted ▸ List.mem_cons_self)).2.2
    have inEntries := subset_entries member targeted
      (resolves_iff.mpr ⟨headTarget, program, first.1⟩)
    rcases List.mem_cons.mp targets with rfl | later
    · exact inEntries
    · exact fun entry here => inEntries (first.2 relocation later here)

/-- Whatever the file, the kernel and the tracing directory: a program that is submitted has the
entries of its attempt resolved. All programs that are submitted have all entries resolved that the
file has for them, if and only if for each of them the file's relocation sections are all usable,
the entries of the first one are good, and the others have no entries but these. -/
theorem resolved_iff {image : Elf.Image} {file : Bytes}
    (parsed : (Elf.Image.parse file).1 = .ok image) (kernel : Kernel σ) (tracefs : Tracefs)
    (session : Session σ) :
    let outcome := loadImage kernel tracefs image session
    ∃ calls, ∃ ledger : Ledger, outcome.2.calls = session.calls ++ calls ∧
      ledger.Describes image session.files outcome.1 calls outcome.2.files ∧
      (∀ attempt ∈ ledger.attempted, ∃ patches,
        Bpf.relocate image.order attempt.part.data attempt.entries (image.symbols.getD [])
          ledger.maps = .ok (attempt.instructions image ledger.maps, patches)) ∧
      ((∀ attempt ∈ ledger.attempted, Resolved file image attempt) ↔
        ∀ attempt ∈ ledger.attempted, FirstSuffices file image ledger.maps attempt.part) := by
  intro outcome
  obtain ⟨calls, ledger, added, describes⟩ := exists_ledger kernel tracefs image session
  refine ⟨calls, ledger, added, describes, ?_, ?_, ?_⟩
  · intro attempt member
    exact (allGood_of_mem_attempts (describes.attemptedFirst.subset member)).relocate
  · intro all attempt member
    exact firstSuffices_of_resolved parsed describes.attemptedFirst all member
  · intro enough attempt member
    exact resolved_of_firstSuffices parsed (describes.attemptedFirst.subset member)
      (enough attempt member)

/-! ### A relocation section that ends in the middle of an entry -/

/-- Section 2 is a program that refers to the map, and section 3 has its entry. -/
def referringPlan : Elf.Plan where
  sections := [
    ⟨"maps", 0, 0, .data (List.replicate 20 1)⟩,
    ⟨"xdp", 0, 0, .data (loadInstruction ++ exitInstruction)⟩,
    ⟨".relxdp", 0, 2, .relocations [⟨0, 1⟩]⟩]
  symbols := [⟨"table", 1, 0⟩]

/-- The object file, but the size of section 3, which stands at byte 456, is 17 and not 16. -/
def misfitFile : Bytes := (referringPlan.layout .little).overwrite 456 [17]

/-- The section of the program. -/
def misfitProgram : Elf.Section := ⟨2, "xdp", 1, 0, loadInstruction ++ exitInstruction, []⟩

/-- What is to be known of an image of this file. -/
structure MisfitFacts (image : Elf.Image) : Prop where
  program : image.section? 2 = some misfitProgram
  absent : image.section? 3 = none
  only : ∀ part ∈ image.sections, part.name = misfitProgram.name → part.number = 2
  submitted :
    (submissions (loadImage willingKernel ⟨"/tracing"⟩ image (.start 7 .scratch)).2.calls).map
      (fun request => (request.sectionName, request.instructions)) =
        [(misfitProgram.name, misfitProgram.data)]

theorem parse_misfitFile :
    ∃ image, (Elf.Image.parse misfitFile).1 = .ok image ∧ MisfitFacts image := by
  obtain ⟨image, parsed, program, absent, only, submitted⟩ :
      ∃ image, (Elf.Image.parse misfitFile).1 = .ok image ∧
        image.section? 2 = some misfitProgram ∧ image.section? 3 = none ∧
        (∀ part ∈ image.sections, part.name = misfitProgram.name → part.number = 2) ∧
        (submissions (loadImage willingKernel ⟨"/tracing"⟩ image (.start 7 .scratch)).2.calls).map
          (fun request => (request.sectionName, request.instructions)) =
            [(misfitProgram.name, misfitProgram.data)] :=
    Elf.Image.exists_of_any (by decide +kernel)
  exact ⟨image, parsed, program, absent, only, submitted⟩

theorem isRelocationFor_misfitFile : Elf.IsRelocationFor misfitFile 2 3 := by
  have entry : (Elf.sectionHeader? misfitFile 3).map
      (fun header => (header.type, header.info, header.size)) =
        some (Elf.typeRelocation, 2, 17) := by decide +kernel
  obtain ⟨header, found, same⟩ := Option.map_eq_some_iff.mp entry
  simp only [Prod.mk.injEq] at same
  obtain ⟨type, info, size⟩ := same
  refine ⟨by decide, header, found, type, ?_, ?_⟩
  · rw [info]
    rfl
  · rw [size]
    decide

/-- The file has a relocation section for the program, the image does not have it, and the program
is submitted with the bytes that it has in the file. -/
theorem loadImage_misfitFile :
    ∃ image part, (Elf.Image.parse misfitFile).1 = .ok image ∧ part ∈ image.sections ∧
      part.number = 2 ∧ Elf.IsRelocationFor misfitFile part.number 3 ∧ image.section? 3 = none ∧
      (submissions (loadImage willingKernel ⟨"/tracing"⟩ image (.start 7 .scratch)).2.calls).map
        (fun request => (request.sectionName, request.instructions)) =
        [(part.name, part.data)] := by
  obtain ⟨image, parsed, facts⟩ := parse_misfitFile
  exact ⟨image, misfitProgram, parsed, (Elf.Image.section?_eq_some_iff.mp facts.program).1, rfl,
    isRelocationFor_misfitFile, facts.absent, facts.submitted⟩

/-- So not all programs that are submitted have their entries resolved. -/
theorem resolved_iff_misfitFile :
    ∃ image, (Elf.Image.parse misfitFile).1 = .ok image ∧
      let outcome := loadImage willingKernel ⟨"/tracing"⟩ image (.start 7 .scratch)
      ∃ ledger : Ledger,
        ledger.Describes image .scratch outcome.1 outcome.2.calls outcome.2.files ∧
          ¬ ∀ attempt ∈ ledger.attempted, Resolved misfitFile image attempt := by
  obtain ⟨image, parsed, facts⟩ := parse_misfitFile
  obtain ⟨calls, ledger, added, describes, _, iff⟩ :=
    resolved_iff parsed willingKernel ⟨"/tracing"⟩ (.start 7 .scratch)
  obtain rfl : calls = _ := added.symm
  refine ⟨image, parsed, ledger, describes, fun all => ?_⟩
  have submitted := facts.submitted
  -- the one program that was submitted is the one of section 2
  rw [describes.submissions_eq, List.map_map] at submitted
  obtain ⟨attempt, only, name⟩ := List.map_eq_singleton_iff.mp submitted
  have member : attempt ∈ ledger.attempted := only ▸ List.mem_singleton_self attempt
  obtain ⟨present, _⟩ := mem_attempts (describes.attemptedFirst.subset member)
  have number := facts.only attempt.part present (congrArg Prod.fst name)
  have usable := (iff.mp all attempt member).1 3 (number ▸ isRelocationFor_misfitFile)
  have present := (Elf.Image.isSome_section?_iff parsed (by decide)).mpr usable
  rw [facts.absent] at present
  cases present

end ProbeStream.Load
