import ProbeStream.Proofs.Load.Answers
import ProbeStream.Proofs.System.Submitting
import ProbeStream.Proofs.Text.Lossy

/-!
# The license of an image

The license of an image is the text of its last section `license`, up to the first NUL
(`imageLicense`). The first pass finds it, and every program is submitted with it.

No license has a NUL in it, whatever bytes the sections hold: what stands in front of the first NUL
has no zero byte, and lossy decoding makes a NUL of nothing else. Over system calls, a program whose
license has a NUL is refused as invalid input without a call, and no other program is
(`SystemKernel.loadProgram_invalid_iff`). So that refusal cannot occur in a load
(`license_loadImage`).
-/

namespace ProbeStream

namespace Load

variable {σ : Type} {files : Fs.Tree}

/-! ## The license of an image -/

/-- The text of the last section `license`, or the license from before if there is none. -/
def licenseIn (before : String) (parts : List Elf.Section) : String :=
  match (parts.filter (·.name = "license")).getLast? with
  | some part => Utf8.decodeLossy part.data.beforeNul
  | none => before

/-- The license of an image; it is empty if there is no section `license`. -/
def imageLicense (image : Elf.Image) : String := licenseIn "" image.sections

theorem nul_notMem_imageLicense (image : Elf.Image) :
    '\x00' ∉ (imageLicense image).toList := by
  rw [imageLicense, licenseIn]
  split
  · exact Utf8.nul_notMem_decodeLossy (Bytes.zero_notMem_beforeNul _)
  · exact List.not_mem_nil

/-- A section `license` takes the place of the license from before. -/
theorem licenseIn_cons (before : String) (part : Elf.Section) (rest : List Elf.Section) :
    licenseIn before (part :: rest) =
      licenseIn (if part.name = "license" then licenseText part.data else before) rest := by
  by_cases license : part.name = "license"
  · rw [licenseIn, licenseIn, List.filter_cons_of_pos (by simpa using license),
      List.getLast?_cons, if_pos license]
    cases (rest.filter (·.name = "license")).getLast? <;> rfl
  · rw [licenseIn, licenseIn, List.filter_cons_of_neg (by simpa using license), if_neg license]

/-! ## The first pass finds it -/

/-- If the first pass ends well, this is the license that it has found. -/
def FindsLicense (license : String) (result : Except LoadError Metadata) : Prop :=
  ∀ found, result = .ok found → found.license = license

theorem FindsLicense.ok {found : Metadata} {license : String} (same : found.license = license) :
    FindsLicense license (.ok found) := by
  rintro _ ⟨⟩
  exact same

theorem FindsLicense.error {failure : LoadError} {license : String} :
    FindsLicense license (.error failure) := by
  rintro _ ⟨⟩

theorem findsLicense_readSection (kernel : Kernel σ) (image : Elf.Image) (found : Metadata)
    (part : Elf.Section) :
    Runs files (readSection kernel image found part) fun result _ _ => FindsLicense
      (if part.name = "license" then licenseText part.data else found.license) result := by
  rw [readSection]
  by_cases license : part.name = "license"
  · rw [if_pos license, if_pos license]
    exact Runs.pure (.ok rfl)
  rw [if_neg license, if_neg license]
  by_cases version : part.name = "version"
  · rw [if_pos version, readVersion]
    split
    · exact Runs.pure (.ok rfl)
    · exact Runs.throw .error
  rw [if_neg version]
  by_cases maps : part.name = "maps"
  · rw [if_pos maps]
    exact Runs.bind (runs_readMaps kernel image maps) (fun _ _ _ _ => .error)
      fun table _ _ _ => Runs.pure (.ok rfl)
  · rw [if_neg maps]
    exact Runs.pure (.ok rfl)

theorem findsLicense_readSections (kernel : Kernel σ) (image : Elf.Image)
    (parts : List Elf.Section) (found : Metadata) :
    Runs files (readSections kernel image parts found) fun result _ _ =>
      FindsLicense (licenseIn found.license parts) result := by
  induction parts generalizing found files with
  | nil => exact Runs.pure (.ok rfl)
  | cons part rest ih =>
    refine Runs.bind (findsLicense_readSection kernel image found part) (fun _ _ _ _ => .error) ?_
    intro middle _ _ finds
    rw [licenseIn_cons, ← finds middle rfl]
    exact ih middle

theorem findsLicense_prepare (kernel : Kernel σ) (tracefs : Tracefs) (image : Elf.Image) :
    Runs files (prepare kernel tracefs image) fun result _ _ =>
      FindsLicense (imageLicense image) result :=
  runs_prepare_of_reads (findsLicense_readSections kernel image image.sections _)

/-! ## Every program is submitted with it -/

theorem AttachesAll.license_eq {tracefs : Tracefs} {image : Elf.Image} {found : Metadata}
    {result : Except LoadError LoadedObject} {calls : List KernelCall} {after : Fs.Tree}
    (attaches : AttachesAll tracefs image found files result calls after)
    {request : ProgramRequest} {answer : Except ProgramRefusal Handle}
    (member : .loadProgram request answer ∈ calls) : request.license = found.license := by
  cases result with
  | ok loaded =>
    obtain ⟨_, groups⟩ := attaches
    obtain ⟨submission, _, rfl⟩ := groups.request_eq member
    rfl
  | error failure =>
    rcases attaches with groups | ⟨rfl, _⟩
    · obtain ⟨submission, _, rfl⟩ := groups.request_eq member
      rfl
    · cases member

theorem license_passes (kernel : Kernel σ) (tracefs : Tracefs) (image : Elf.Image) :
    Runs files (passes kernel tracefs image) fun _ calls _ => ∀ request answer,
      .loadProgram request answer ∈ calls → request.license = imageLicense image := by
  refine Runs.bind ((runs_prepare kernel tracefs image).both
    (findsLicense_prepare kernel tracefs image)) ?_ ?_
  · rintro failure calls after ⟨⟨_, handles, creates, _⟩, _⟩ request answer member
    exact absurd rfl (creates.quiet _ member)
  · rintro found before middle ⟨⟨_, handles, creates, _⟩, finds⟩
    refine (runs_attachPrograms kernel tracefs image found).weaken ?_
    intro result calls after attaches request answer member
    rcases List.mem_append.mp member with early | late
    · exact absurd rfl (creates.quiet _ early)
    · exact (attaches.license_eq late).trans (finds found rfl)

end Load

/-- Over system calls, a program is refused as invalid input exactly if there is a NUL in its
license. -/
theorem SystemKernel.loadProgram_invalid_iff {σ : Type} (system : System σ)
    (request : ProgramRequest) (machine : Machine σ) :
    (∃ refusal complaint, (loadProgram system request machine).1 = .error refusal ∧
      refusal.failure = .invalidInput complaint) ↔ '\x00' ∈ request.license.toList := by
  constructor
  · rintro ⟨refusal, complaint, refused, invalid⟩
    refine Decidable.byContradiction fun noNul => ?_
    obtain ⟨exchanges, _, submitted⟩ := asks_loadProgram system noNul machine
    rw [refused] at submitted
    obtain ⟨code, _, cause, _⟩ := submitted.of_error
    rw [invalid] at cause
    cases cause
  · intro nul
    rw [loadProgram, if_pos nul]
    exact ⟨_, _, rfl, rfl⟩

namespace Load

/-- Whatever the image and the tracing directory: whatever the kernel, every program of a load is
submitted with the license of the image, and there is no NUL in it. So over system calls, whatever
the system answers, no program is refused as invalid input, and no load fails for that reason. -/
theorem license_loadImage (tracefs : Tracefs) (image : Elf.Image) :
    (∀ (σ : Type) (kernel : Kernel σ) (session : Session σ),
      ∃ calls, (loadImage kernel tracefs image session).2.calls = session.calls ++ calls ∧
        ∀ request answer, .loadProgram request answer ∈ calls →
          request.license = imageLicense image ∧ '\x00' ∉ request.license.toList) ∧
    ∀ (σ : Type) (system : System σ) (session : Session (Machine σ)),
      let outcome := loadImage (SystemKernel.kernel system) tracefs image session
      ∃ calls, outcome.2.calls = session.calls ++ calls ∧
        (∀ request refusal complaint, .loadProgram request (.error refusal) ∈ calls →
          refusal.failure ≠ .invalidInput complaint) ∧
        ∀ name complaint text,
          outcome.1 ≠ .error (.programLoad name (.invalidInput complaint) text) := by
  have licensed {σ : Type} (kernel : Kernel σ) (session : Session σ) :
      ∃ calls, (loadImage kernel tracefs image session).2.calls = session.calls ++ calls ∧
        ∀ request answer, .loadProgram request answer ∈ calls →
          request.license = imageLicense image ∧ '\x00' ∉ request.license.toList := by
    obtain ⟨calls, added, licensed⟩ := license_passes kernel tracefs image session rfl
    refine ⟨calls, (loadImage_eq kernel tracefs image session).2.trans added, ?_⟩
    intro request answer member
    have same := licensed request answer member
    exact ⟨same, same ▸ nul_notMem_imageLicense image⟩
  refine ⟨fun _ => licensed, fun σ system session => ?_⟩
  intro outcome
  obtain ⟨calls, added, noNul⟩ := licensed (SystemKernel.kernel system) session
  obtain ⟨others, addedAlso, honest⟩ :=
    honest_loadImage (SystemKernel.kernel system) tracefs image session
  obtain rfl := List.append_cancel_left (added.symm.trans addedAlso)
  have valid : ∀ request refusal complaint, .loadProgram request (.error refusal) ∈ calls →
      refusal.failure ≠ .invalidInput complaint := by
    intro request refusal complaint member invalid
    obtain ⟨machine, refused⟩ := honest.given _ member
    exact (noNul request _ member).2 <| (SystemKernel.loadProgram_invalid_iff system request
      machine).mp ⟨refusal, complaint, refused, invalid⟩
  refine ⟨calls, added, valid, ?_⟩
  intro name complaint text failed
  obtain ⟨request, _, member⟩ := honest.reported name _ text failed
  exact valid request _ complaint member rfl

/-- Two sections `license`, in front of a program and behind it. The second one has a byte that is
no character, and goes on behind a NUL. -/
def relicensedImage : Elf.Image where
  order := .little
  slots := [none,
    some ⟨1, "license", 1, 0, Utf8.encode "GPL", []⟩,
    some ⟨2, "xdp", 1, 0, exitInstruction, []⟩,
    some ⟨3, "license", 1, 0, Utf8.encode "BS" ++ [0xFF, 0x44, 0, 0x21], []⟩]
  symbols := none
  numbered := by
    intro number part found
    rcases number with _ | _ | _ | _ | number <;> simp at found <;> simp [← found]

example : ((loadImage willingKernel ⟨"/tracing"⟩ relicensedImage
    (.start 0 .scratch)).2.calls.filterMap fun
      | .loadProgram request _ => some request.license
      | _ => none) = ["BS\uFFFDD"] := by decide +kernel

end Load

end ProbeStream
