import Mathlib.Data.List.Pairwise
import ProbeStream.Load.Object
import ProbeStream.Proofs.Bpf.Categories
import ProbeStream.Proofs.Bpf.Relocation
import ProbeStream.Proofs.Load.Submissions

/-!
# The plan of a load

Which programs an image has, and with which instructions they are to be submitted, can be said
without the passes:

- for each relocation section in the order of their numbers, the program that it targets, with its
  references resolved against the maps, if all of them can be resolved;
- then every program that no relocation section targets, with the bytes that it has.

A section has a program if its name gives a category.
-/

namespace ProbeStream

namespace Load

/-! ## Programs of an image -/

/-- The program of a section with these instructions, if the name gives a category. -/
def submission? (part : Elf.Section) (instructions : Bytes) : Option Submission :=
  match Bpf.Category.ofSectionName part.name with
  | .error _ => none
  | .ok category => some ⟨part.number, part.name, category, instructions⟩

theorem submission?_of_not_program {part : Elf.Section}
    (other : ¬ Bpf.Category.isProgramSection part.name) (instructions : Bytes) :
    submission? part instructions = none := by
  rw [submission?, Bpf.Category.ofSectionName_of_not_program (Bool.eq_false_iff.mpr other)]

/-- The instructions of a program with its references resolved, if all of them can be. In an object
without symbols no reference can be resolved. -/
def resolved? (image : Elf.Image) (maps : Bpf.MapTable) (relocation target : Elf.Section) :
    Option Bytes :=
  match Bpf.relocate image.order target.data relocation.relocations (image.symbols.getD [])
      maps with
  | .error _ => none
  | .ok (data, _) => some data

/-- The references can be resolved if each entry can. -/
theorem isSome_resolved?_iff {image : Elf.Image} {maps : Bpf.MapTable}
    {relocation target : Elf.Section} :
    (resolved? image maps relocation target).isSome ↔
      ∀ entry ∈ relocation.relocations, ∃ patch,
        Bpf.resolveEntry target.data (image.symbols.getD []) maps entry = .ok patch := by
  rw [← Bpf.exists_resolveEntries_iff, resolved?, Bpf.relocate]
  cases Bpf.resolveEntries target.data (image.symbols.getD []) maps relocation.relocations <;>
    simp [Except.map]

/-- The program that a relocation section targets, with its references resolved. -/
def relocated? (image : Elf.Image) (maps : Bpf.MapTable) (relocation : Elf.Section) :
    Option Submission := do
  let target ← image.section? relocation.info.toNat
  let instructions ← resolved? image maps relocation target
  submission? target instructions

/-- Whether a relocation section targets the section of this number. -/
def isTargeted (image : Elf.Image) (number : Nat) : Bool :=
  image.sections.any fun part => part.isRelocation && part.info.toNat == number

/-- The program of a section that no relocation section targets. -/
def untargeted? (image : Elf.Image) (part : Elf.Section) : Option Submission :=
  if isTargeted image part.number then none else submission? part part.data

/-- The programs of an image in the order in which they are to be submitted. -/
def planned (image : Elf.Image) (maps : Bpf.MapTable) : List Submission :=
  (image.sections.filter (·.isRelocation)).filterMap (relocated? image maps) ++
    image.sections.filterMap (untargeted? image)

/-- No section is the target of two relocation sections. -/
def TargetsOnce (image : Elf.Image) : Prop :=
  (image.sections.filter (·.isRelocation)).Pairwise fun first second =>
    first.info = second.info → image.section? first.info.toNat = none

instance (image : Elf.Image) : Decidable (TargetsOnce image) :=
  inferInstanceAs (Decidable (List.Pairwise _ _))

/-- No relocation section has the name of a program. -/
def RelocationsUnnamed (image : Elf.Image) : Prop :=
  ∀ part ∈ image.sections, part.isRelocation → ¬ Bpf.Category.isProgramSection part.name

instance (image : Elf.Image) : Decidable (RelocationsUnnamed image) :=
  inferInstanceAs (Decidable (∀ part ∈ _, _ → _))

theorem number_of_submission? {part : Elf.Section} {instructions : Bytes} {submission : Submission}
    (planned : submission? part instructions = some submission) :
    submission.number = part.number := by
  rw [submission?] at planned
  split at planned
  · cases planned
  · cases planned
    rfl

theorem relocated?_eq_some_iff {image : Elf.Image} {maps : Bpf.MapTable} {relocation : Elf.Section}
    {submission : Submission} :
    relocated? image maps relocation = some submission ↔
      ∃ target, image.section? relocation.info.toNat = some target ∧
        ∃ instructions, resolved? image maps relocation target = some instructions ∧
          submission? target instructions = some submission := by
  simp [relocated?, Option.bind_eq_some_iff]

theorem TargetsOnce.eq {image : Elf.Image} (once : TargetsOnce image) {first second : Elf.Section}
    (here : first ∈ image.sections.filter (·.isRelocation))
    (there : second ∈ image.sections.filter (·.isRelocation)) (same : first.info = second.info)
    {target : Elf.Section} (found : image.section? first.info.toNat = some target) :
    first = second := by
  have symmetric : Std.Symm fun first second : Elf.Section =>
      first.info = second.info → image.section? first.info.toNat = none := by
    constructor
    intro first second absent same
    rw [same]
    exact absent same.symm
  by_contra apart
  have absent := List.Pairwise.forall once here there apart same
  rw [found] at absent
  cases absent

/-- A program whose references cannot all be resolved is not in the plan, neither for its relocation
section nor as a program of its own. -/
theorem number_ne_of_rejected {image : Elf.Image} {maps : Bpf.MapTable} (once : TargetsOnce image)
    {relocation target : Elf.Section} (present : relocation ∈ image.sections)
    (isRelocation : relocation.isRelocation)
    (found : image.section? relocation.info.toNat = some target)
    (rejected : resolved? image maps relocation target = none) :
    ∀ submission ∈ planned image maps, submission.number ≠ target.number := by
  obtain ⟨_, number⟩ := Elf.Image.section?_eq_some_iff.mp found
  intro submission member same
  rcases List.mem_append.mp member with targeted | alone
  · -- it would have the number of the target from its own relocation section, which is this one
    obtain ⟨other, here, isPlanned⟩ := List.mem_filterMap.mp targeted
    obtain ⟨otherTarget, otherFound, instructions, resolved, isSubmission⟩ :=
      relocated?_eq_some_iff.mp isPlanned
    have otherNumber := (Elf.Image.section?_eq_some_iff.mp otherFound).2
    have info : relocation.info = other.info := by
      rw [number_of_submission? isSubmission, otherNumber, number] at same
      exact UInt32.toNat_inj.mp same.symm
    obtain rfl := once.eq (List.mem_filter.mpr ⟨present, isRelocation⟩) here info found
    obtain rfl := Option.some.inj (found.symm.trans otherFound)
    rw [rejected] at resolved
    cases resolved
  · obtain ⟨part, _, isPlanned⟩ := List.mem_filterMap.mp alone
    rw [untargeted?] at isPlanned
    split at isPlanned
    · cases isPlanned
    · next free =>
      refine free (List.any_eq_true.mpr ⟨relocation, present, ?_⟩)
      rw [number_of_submission? isPlanned, number] at same
      simp [isRelocation, same]

end Load

end ProbeStream
