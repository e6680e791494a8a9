import ProbeStream.Proofs.Load.Course

/-!
# Programs that are attached twice

The second pass attaches the program of a section once for each relocation section that is resolved
in it, and it does not ask whether the section was dealt with before. The third pass asks. So no
program is attached twice if and only if no two relocation sections are resolved in one program
(`AttachedOnce`, `accepted_once_iff`).

`twiceImage` has two of them for one probe. That program is loaded, registered and attached twice.
-/

namespace ProbeStream.Load

variable {σ : Type} {image : Elf.Image} {maps : Bpf.MapTable}

/-- No two relocation sections are resolved in one program. -/
def AttachedOnce (image : Elf.Image) (maps : Bpf.MapTable) : Prop :=
  (relocationSections image).Pairwise fun first second =>
    ∀ part ∈ image.sections, (∃ category, Bpf.Category.ofSectionName part.name = .ok category) →
      resolves image maps first part → ¬ resolves image maps second part

/-! ## Sections with several attempts -/

/-- The section whose program is attached for a relocation section. -/
def attachedPart? (image : Elf.Image) (maps : Bpf.MapTable) (relocation : Elf.Section) :
    Option Elf.Section :=
  (relocatedAttempt? image maps [] relocation).map (·.part)

theorem map_part_of? (part : Elf.Section) (entries others : List Elf.Relocation) :
    (Attempt.of? part entries).map (·.part) = (Attempt.of? part others).map (·.part) := by
  rw [Attempt.of?, Attempt.of?]
  cases Bpf.Category.ofSectionName part.name with
  | error fault => rfl
  | ok category => rfl

/-- It does not matter which relocation sections came before. -/
theorem map_part_relocatedAttempt? (earlier : List Elf.Section) (relocation : Elf.Section) :
    (relocatedAttempt? image maps earlier relocation).map (·.part) =
      attachedPart? image maps relocation := by
  rw [attachedPart?, relocatedAttempt?, relocatedAttempt?]
  cases image.section? relocation.info.toNat with
  | none => rfl
  | some target =>
    dsimp only
    split
    · exact map_part_of? target _ _
    · rfl

theorem attachedPart?_eq_some_iff {relocation part : Elf.Section} :
    attachedPart? image maps relocation = some part ↔
      part ∈ image.sections ∧ resolves image maps relocation part ∧
        ∃ category, Bpf.Category.ofSectionName part.name = .ok category := by
  rw [attachedPart?, Option.map_eq_some_iff]
  constructor
  · rintro ⟨attempt, planned, rfl⟩
    obtain ⟨present, resolved, _, named⟩ := relocatedAttempt?_eq_some_iff.mp planned
    exact ⟨present, resolved, _, named⟩
  · rintro ⟨present, resolved, category, named⟩
    exact ⟨⟨part, category, entriesFor image maps ([] ++ [relocation]) part⟩,
      relocatedAttempt?_eq_some_iff.mpr ⟨present, resolved, rfl, named⟩, rfl⟩

theorem map_part_relocatedAttempts (earlier relocations : List Elf.Section) :
    (relocatedAttempts image maps earlier relocations).map (·.part) =
      relocations.filterMap (attachedPart? image maps) := by
  induction relocations generalizing earlier with
  | nil => rfl
  | cons relocation rest ih =>
    rw [relocatedAttempts, List.map_append, ih, filterMap_cons_eq, ← Option.toList_map,
      map_part_relocatedAttempt?]

theorem nodup_relocatedAttempts_iff :
    ((relocatedAttempts image maps [] (relocationSections image)).map (·.part.number)).Nodup ↔
      AttachedOnce image maps := by
  have numbers : (relocatedAttempts image maps [] (relocationSections image)).map (·.part.number) =
      ((relocationSections image).filterMap (attachedPart? image maps)).map (·.number) := by
    rw [← map_part_relocatedAttempts [], List.map_map]
    rfl
  rw [numbers, List.Nodup, List.pairwise_map, List.pairwise_filterMap, AttachedOnce]
  refine List.Pairwise.iff fun first second => ?_
  constructor
  · intro apart part present named here there
    exact apart part (attachedPart?_eq_some_iff.mpr ⟨present, here, named⟩) part
      (attachedPart?_eq_some_iff.mpr ⟨present, there, named⟩) rfl
  · intro once part found other otherFound same
    obtain ⟨present, here, named⟩ := attachedPart?_eq_some_iff.mp found
    obtain ⟨otherPresent, there, _⟩ := attachedPart?_eq_some_iff.mp otherFound
    obtain rfl := Elf.Image.eq_of_number_eq present otherPresent same
    exact once part present named here there

theorem number_mem_of_relocatedAttempts {attempt : Attempt}
    (member : attempt ∈ relocatedAttempts image maps [] (relocationSections image)) :
    attempt.part.number ∈ relocatedNumbers image := by
  have part := List.mem_map_of_mem (f := (·.part)) member
  rw [map_part_relocatedAttempts] at part
  obtain ⟨relocation, here, attached⟩ := List.mem_filterMap.mp part
  obtain ⟨present, resolved, _⟩ := attachedPart?_eq_some_iff.mp attached
  obtain ⟨inImage, isRelocation⟩ := List.mem_filter.mp here
  have target := (resolves_iff.mp resolved).1
  refine mem_relocatedNumbers.mpr ⟨relocation, inImage, isRelocation, ?_, .inr target.symm⟩
  rw [target, Elf.Image.section?_eq_some_iff.mpr ⟨present, rfl⟩]
  rfl

/-- No program is attempted twice exactly if no two relocation sections are resolved in one. -/
theorem nodup_attempts_iff :
    ((attempts image maps).map (·.part.number)).Nodup ↔ AttachedOnce image maps := by
  rw [attempts, List.map_append, List.nodup_append, nodup_relocatedAttempts_iff]
  refine and_iff_left ⟨?_, ?_⟩
  · rw [List.Nodup, List.pairwise_map, List.pairwise_filterMap]
    refine image.pairwise_sections.imp ?_
    intro first second apart attempt found other otherFound
    rw [(remainingAttempt?_eq_some_iff.mp found).2.1,
      (remainingAttempt?_eq_some_iff.mp otherFound).2.1]
    exact apart
  · -- the third pass leaves out what the second one has dealt with
    intro number relocated other remaining same
    obtain ⟨attempt, member, rfl⟩ := List.mem_map.mp relocated
    obtain ⟨_, memberOther, rfl⟩ := List.mem_map.mp remaining
    obtain ⟨part, _, found⟩ := List.mem_filterMap.mp memberOther
    obtain ⟨free, isPart, _⟩ := remainingAttempt?_eq_some_iff.mp found
    rw [isPart] at same
    exact free (same ▸ number_mem_of_relocatedAttempts member)

/-! ## Accepted programs -/

/-- Whatever the image, the kernel and the tracing directory: if no two relocation sections are
resolved in one program, then no program is accepted twice, and no probe of a section is registered
twice. A load that ends well accepts none twice only if that is so. -/
theorem accepted_once_iff (kernel : Kernel σ) (tracefs : Tracefs) (image : Elf.Image)
    (session : Session σ) :
    let outcome := loadImage kernel tracefs image session
    ∃ calls, ∃ ledger : Ledger, outcome.2.calls = session.calls ++ calls ∧
      ledger.Describes image session.files outcome.1 calls outcome.2.files ∧
      (AttachedOnce image ledger.maps → (ledger.accepted.map (·.part.number)).Nodup ∧
        (ledger.registered.map (·.part.number)).Nodup) ∧
      ∀ loaded, outcome.1 = .ok loaded →
        ((ledger.accepted.map (·.part.number)).Nodup ↔ AttachedOnce image ledger.maps) := by
  intro outcome
  obtain ⟨calls, ledger, added, describes⟩ := exists_ledger kernel tracefs image session
  have first := (describes.acceptedFirst.trans describes.attemptedFirst).map (·.part.number)
  have second := describes.registeredFirst.map (·.part.number)
  refine ⟨calls, ledger, added, describes, ?_, ?_⟩
  · intro once
    have nodup := (nodup_attempts_iff.mpr once).sublist first.sublist
    exact ⟨nodup, nodup.sublist second.sublist⟩
  · intro loaded ended
    obtain ⟨_, all, _⟩ := describes.complete loaded ended
    rw [all] at second
    -- the accepted programs lie between the registered ones and all attempts, which are the same
    have same : ledger.accepted.map (·.part.number) =
        (attempts image ledger.maps).map (·.part.number) :=
      first.sublist.antisymm second.sublist
    rw [same, nodup_attempts_iff]

/-! ### A probe with two relocation sections -/

/-- Section 1 is a probe with two references to the map, sections 2 and 3 have one entry each. -/
def twiceImage : Elf.Image where
  order := .little
  slots := [none,
    some ⟨1, "kprobe/tcp_close", 1, 0, loadInstruction ++ loadInstruction ++ exitInstruction, []⟩,
    some ⟨2, ".relkprobe/tcp_close", Elf.typeRelocation, 1, [0], [⟨0, 0⟩]⟩,
    some ⟨3, ".rel2kprobe/tcp_close", Elf.typeRelocation, 1, [0], [⟨16, 0⟩]⟩,
    some ⟨4, "maps", 1, 0, List.replicate 20 1, []⟩]
  symbols := some [⟨"table", 4, 0⟩]
  numbered := by
    intro number part found
    rcases number with _ | _ | _ | _ | _ | number <;> simp at found <;> simp [← found]

/-- A tracing directory where the probe will have the number 5. -/
def twiceFiles : Fs.Tree :=
  Fs.Tree.scratch.plantFile "/tracing/events/kprobes/ptcp_close/id" (Utf8.encode "5\n")

/-- The probe is loaded twice, it is twice among the loaded programs, and it is registered twice. -/
theorem loadImage_twiceImage :
    let outcome := loadImage willingKernel ⟨"/tracing"⟩ twiceImage (.start 0 twiceFiles)
    outcome.1.toOption.map (fun loaded => loaded.programs.map (·.sectionName)) =
        some ["kprobe/tcp_close", "kprobe/tcp_close"] ∧
      (granted outcome.2.calls).map (·.1.sectionName) =
        ["kprobe/tcp_close", "kprobe/tcp_close"] ∧
      outcome.2.files.readText "/tracing/kprobe_events" =
        .ok "p:ptcp_close tcp_close\np:ptcp_close tcp_close\n" := by
  decide +kernel

end ProbeStream.Load
