import ProbeStream.Proofs.Load.Course

/-!
# The answers are the kernel's own

A load makes nothing up. The answer of every call that it records is one that the kernel gives
(`Kernel.Gives`), and an error that a program was refused repeats what the kernel has said of that
program. `Honest` says so of what comes of a step, and every step of a load is honest, for every
kernel (`honest_loadImage`). So a failure that the kernel never answers with does not occur in a
load, neither among its calls nor as its result.
-/

namespace ProbeStream

/-- The answer of a call is one that the kernel gives, in some state. -/
def Kernel.Gives {σ : Type} (kernel : Kernel σ) : KernelCall → Prop
  | .createMap definition answer => ∃ state, (kernel.createMap definition state).1 = answer
  | .loadProgram request answer => ∃ state, (kernel.loadProgram request state).1 = answer
  | .raiseMemoryLimit answer => ∃ state, (kernel.raiseMemoryLimit state).1 = answer
  | .openEvent id answer => ∃ state, (kernel.openEvent id state).1 = answer
  | .enableEvent event answer => ∃ state, (kernel.enableEvent event state).1 = answer
  | .attachProgram event program answer =>
    ∃ state, (kernel.attachProgram event program state).1 = answer

namespace Load

variable {σ α β : Type} {kernel : Kernel σ} {files : Fs.Tree}

/-- The kernel has given the answers to the calls, and a program that is reported as refused was
refused in one of them, for the same reason and with the same text. -/
structure Honest (kernel : Kernel σ) (result : Except LoadError α) (calls : List KernelCall)
    (_after : Fs.Tree) : Prop where
  given : ∀ call ∈ calls, kernel.Gives call
  reported : ∀ name failure text, result = .error (.programLoad name failure text) →
    ∃ request, request.sectionName = name ∧
      .loadProgram request (.error ⟨failure, text⟩) ∈ calls

namespace Honest

variable {result : Except LoadError α} {calls : List KernelCall}

/-- Without a call there is no program that is reported as refused. -/
theorem quiet (other : ∀ name failure text, result ≠ .error (.programLoad name failure text)) :
    Honest kernel result [] files :=
  ⟨by simp, fun name failure text same => absurd same (other name failure text)⟩

theorem ok {value : α} : Honest kernel (.ok value) [] files := .quiet nofun

theorem format {complaint : String} :
    Honest kernel (.error (.format complaint) : Except LoadError α) [] files := .quiet nofun

theorem resource {attempt : String} {cause : IoError} :
    Honest kernel (.error (.resource attempt cause) : Except LoadError α) [] files := .quiet nofun

theorem refused {request : ProgramRequest} {refusal : ProgramRefusal}
    (given : kernel.Gives (.loadProgram request (.error refusal))) :
    Honest kernel (.error (Attacher.refused request.sectionName refusal) : Except LoadError α)
      [.loadProgram request (.error refusal)] files := by
  refine ⟨List.forall_mem_singleton.mpr given, ?_⟩
  rintro name failure text same
  cases same
  exact ⟨request, rfl, List.mem_singleton_self _⟩

theorem behind {before : List KernelCall} (given : ∀ call ∈ before, kernel.Gives call)
    (honest : Honest kernel result calls files) : Honest kernel result (before ++ calls) files where
  given := List.forall_mem_append.mpr ⟨given, honest.given⟩
  reported name failure text same := by
    obtain ⟨request, named, member⟩ := honest.reported name failure text same
    exact ⟨request, named, List.mem_append_right before member⟩

theorem cons {call : KernelCall} (given : kernel.Gives call)
    (honest : Honest kernel result calls files) : Honest kernel result (call :: calls) files :=
  behind (List.forall_mem_singleton.mpr given) honest

end Honest

namespace Runs

variable {step : Load σ α} {next : α → Load σ β}

theorem bindHonest (runs : Runs files step (Honest kernel))
    (goesOn : ∀ value middle, Runs middle (next value) (Honest kernel)) :
    Runs files (step >>= next) (Honest kernel) := by
  refine Runs.bind runs ?_ ?_
  · rintro failure calls after ⟨given, reported⟩
    refine ⟨given, fun name cause text same => reported name cause text ?_⟩
    cases same
    rfl
  · intro value before middle honest
    exact (goesOn value middle).weaken fun _ _ _ later => later.behind honest.given

theorem requestHonest {ask : StateM σ α} (record : α → KernelCall)
    (gives : ∀ state, kernel.Gives (record (ask state).1))
    (goesOn : ∀ answer, Runs files (next answer) (Honest kernel)) :
    Runs files (Load.request ask record >>= next) (Honest kernel) :=
  Runs.answered (fun answer => kernel.Gives (record answer)) gives fun answer given =>
    (goesOn answer).weaken fun _ _ _ honest => honest.cons given

end Runs

/-! ## Programs -/

theorem honest_load (kernel : Kernel σ) (attacher : Attacher) (sectionName : String)
    (category : Bpf.Category) (instructions : Bytes) :
    Runs files (attacher.load kernel sectionName category instructions) (Honest kernel) := by
  let request := attacher.programRequest sectionName category instructions
  have gives (state : σ) :
      kernel.Gives (.loadProgram request (kernel.loadProgram request state).1) := ⟨state, rfl⟩
  refine Runs.answered (fun answer => kernel.Gives (.loadProgram request answer)) gives ?_
  intro answer given
  cases answer with
  | ok handle => exact Runs.pure (.cons given .ok)
  | error refusal =>
    show Runs files (if refusal.isPermissionDenied then _ else _) _
    by_cases denied : refusal.isPermissionDenied
    · rw [if_pos denied]
      refine Runs.still (still_note _ _) fun _ => ?_
      refine Runs.answered (fun raised => kernel.Gives (.raiseMemoryLimit raised))
        (fun state => ⟨state, rfl⟩) fun raised givenRaise => ?_
      cases raised with
      | error failure =>
        refine Runs.still (still_note _ _) fun _ => Runs.throw ?_
        exact .cons given (.cons givenRaise .resource)
      | ok _ =>
        refine Runs.answered (fun answer => kernel.Gives (.loadProgram request answer)) gives ?_
        intro second givenSecond
        cases second with
        | error refusal => exact Runs.throw (.cons given (.cons givenRaise (.refused givenSecond)))
        | ok handle =>
          exact Runs.pure (.cons given (.cons givenRaise (.cons givenSecond .ok)))
    · rw [if_neg denied]
      exact Runs.throw (.refused given)

theorem honest_hookUp (kernel : Kernel σ) (name : String) (program : Handle) (id : UInt64) :
    Runs files (Attacher.hookUp kernel name program id) (Honest kernel) := by
  refine Runs.requestHonest (.openEvent id) (fun state => ⟨state, rfl⟩) fun opened => ?_
  refine Runs.require ?_ ?_
  · exact fun _ _ => .resource
  · intro event _
    refine Runs.requestHonest (.enableEvent event) (fun state => ⟨state, rfl⟩) fun enabled => ?_
    cases enabled with
    | error failure =>
      exact Runs.still (still_close kernel event false) fun _ => Runs.throw .resource
    | ok _ =>
      refine Runs.requestHonest (.attachProgram event program) (fun state => ⟨state, rfl⟩)
        fun attached => ?_
      cases attached with
      | error failure =>
        exact Runs.still (still_close kernel event true) fun _ => Runs.throw .resource
      | ok _ => exact Runs.still (still_hold event) fun _ => Runs.pure .ok

theorem honest_eventIdPath (kernel : Kernel σ) (attacher : Attacher) (category : Bpf.Category) :
    Runs files (attacher.eventIdPath category : Load σ (Option String)) (Honest kernel) := by
  refine (attacher.runs_eventIdPath category).weaken ?_
  rintro result calls after ⟨rfl, ended⟩
  cases result with
  | ok path => exact .ok
  | error failure =>
    obtain ⟨_, symbol, cause, _, _, rfl⟩ := ended
    exact .resource

theorem honest_attach (kernel : Kernel σ) (attacher : Attacher) (sectionName : String)
    (category : Bpf.Category) (instructions : Bytes) :
    Runs files (attacher.attach kernel sectionName category instructions) (Honest kernel) := by
  refine Runs.bindHonest (honest_load kernel attacher sectionName category instructions) ?_
  intro program middle
  refine Runs.still (still_note _ _) fun _ => ?_
  refine Runs.bindHonest (honest_eventIdPath kernel attacher category) fun path changed => ?_
  cases path with
  | none => exact Runs.still (still_note _ _) fun _ => Runs.pure .ok
  | some path =>
    refine Runs.readFiles (Runs.require (fun _ _ => .resource) fun id _ => ?_)
    refine Runs.bindHonest (honest_hookUp kernel sectionName program id) fun event after => ?_
    exact Runs.still (still_note _ _) fun _ => Runs.pure .ok

theorem honest_attachSection (kernel : Kernel σ) (attacher : Attacher) (part : Elf.Section)
    (programs : List LoadedProgram) :
    Runs files (attachSection kernel attacher part programs) (Honest kernel) := by
  rw [attachSection]
  cases Bpf.Category.ofSectionName part.name with
  | error fault => exact Runs.still (still_note _ _) fun _ => Runs.pure .ok
  | ok category =>
    exact Runs.bindHonest (honest_attach kernel attacher part.name category part.data)
      fun program after => Runs.pure .ok

theorem honest_attachRemaining (kernel : Kernel σ) (attacher : Attacher) (done : List Nat)
    (parts : List Elf.Section) (programs : List LoadedProgram) :
    Runs files (attachRemaining kernel attacher done parts programs) (Honest kernel) := by
  induction parts generalizing programs files with
  | nil => exact Runs.pure .ok
  | cons part rest ih =>
    rw [attachRemaining]
    split
    · exact Runs.bindHonest (honest_attachSection kernel attacher part programs)
        fun all middle => ih all
    · exact ih programs

theorem honest_resolve (kernel : Kernel σ) (image : Elf.Image) (maps : Bpf.MapTable)
    (relocation target : Elf.Section) :
    Runs files (resolve image maps relocation target : Load σ (Option Elf.Section))
      (Honest kernel) := by
  rw [resolve]
  split
  · exact Runs.throw .format
  · split
    · exact Runs.still (still_note _ _) fun _ => Runs.pure .ok
    · exact Runs.still (still_noteAll _) fun _ => Runs.still (still_note _ _) fun _ =>
        Runs.pure .ok

theorem honest_attachRelocated (kernel : Kernel σ) (attacher : Attacher) (maps : Bpf.MapTable)
    (relocations : List Elf.Section) (image : Elf.Image) (done : List Nat)
    (programs : List LoadedProgram) :
    Runs files (attachRelocated kernel attacher maps relocations image done programs)
      (Honest kernel) := by
  induction relocations generalizing image done programs files with
  | nil => exact Runs.pure .ok
  | cons relocation rest ih =>
    rw [attachRelocated]
    split
    · exact ih image done programs
    · next target found =>
      split
      · refine Runs.bindHonest (honest_resolve kernel image maps relocation target) ?_
        intro answer middle
        cases answer with
        | none => exact ih image (mark done relocation) programs
        | some resolved =>
          exact Runs.bindHonest (honest_attachSection kernel attacher resolved programs)
            fun all after => ih _ (mark done relocation) all
      · exact Runs.still (still_note _ _) fun _ => ih image (mark done relocation) programs

theorem honest_attachPrograms (kernel : Kernel σ) (tracefs : Tracefs) (image : Elf.Image)
    (found : Metadata) :
    Runs files (attachPrograms kernel tracefs image found) (Honest kernel) := by
  refine Runs.bindHonest (honest_attachRelocated kernel _ found.maps _ image [] []) ?_
  rintro ⟨patched, done, programs⟩ middle
  refine Runs.bindHonest (honest_attachRemaining kernel _ done patched.sections programs) ?_
  exact fun all after => Runs.still (still_note _ _) fun _ => Runs.pure .ok

/-! ## The first pass -/

theorem honest_createMap (kernel : Kernel σ) (index : Nat) (definition : Bpf.MapDefinition)
    (name : Option String) (maps : Bpf.MapTable) :
    Runs files (createMap kernel index definition name maps) (Honest kernel) := by
  refine Runs.requestHonest (.createMap definition) (fun state => ⟨state, rfl⟩) fun answer => ?_
  refine Runs.require ?_ ?_
  · exact fun _ _ => .resource
  · intro handle _
    refine Runs.still (still_note _ _) fun _ => ?_
    dsimp only
    split
    · exact Runs.still (still_noteAll _) fun _ => Runs.pure .ok
    · exact Runs.pure .ok

theorem honest_createMaps (kernel : Kernel σ) (index : Nat)
    (definitions : List Bpf.MapDefinition) (names : List (Option String)) (maps : Bpf.MapTable) :
    Runs files (createMaps kernel index definitions names maps) (Honest kernel) := by
  induction definitions generalizing index names maps files with
  | nil => exact Runs.pure .ok
  | cons definition rest ih =>
    exact Runs.bindHonest (honest_createMap kernel index definition _ maps)
      fun one middle => ih (index + 1) names.tail one

theorem honest_readMaps (kernel : Kernel σ) (image : Elf.Image) (part : Elf.Section) :
    Runs files (readMaps kernel image part) (Honest kernel) :=
  Runs.require (fun _ _ => .format) fun definitions _ =>
    honest_createMaps kernel 0 definitions _ .empty

theorem honest_readSection (kernel : Kernel σ) (image : Elf.Image) (found : Metadata)
    (part : Elf.Section) :
    Runs files (readSection kernel image found part) (Honest kernel) := by
  rw [readSection]
  by_cases license : part.name = "license"
  · rw [if_pos license]
    exact Runs.pure .ok
  rw [if_neg license]
  by_cases version : part.name = "version"
  · rw [if_pos version, readVersion]
    split
    · exact Runs.pure .ok
    · exact Runs.throw .format
  rw [if_neg version]
  by_cases maps : part.name = "maps"
  · rw [if_pos maps]
    exact Runs.bindHonest (honest_readMaps kernel image part) fun table after => Runs.pure .ok
  · rw [if_neg maps]
    exact Runs.pure .ok

theorem honest_readSections (kernel : Kernel σ) (image : Elf.Image) (parts : List Elf.Section)
    (found : Metadata) :
    Runs files (readSections kernel image parts found) (Honest kernel) := by
  induction parts generalizing found files with
  | nil => exact Runs.pure .ok
  | cons part rest ih =>
    exact Runs.bindHonest (honest_readSection kernel image found part) fun middle after => ih middle

/-! ## The whole load -/

theorem honest_passes (kernel : Kernel σ) (tracefs : Tracefs) (image : Elf.Image) :
    Runs files (passes kernel tracefs image) (Honest kernel) :=
  Runs.bindHonest (runs_prepare_of_reads (honest_readSections kernel image image.sections _))
    fun found _ => honest_attachPrograms kernel tracefs image found

/-- Whatever the image, the kernel and the tracing directory, a load is honest. -/
theorem honest_loadImage (kernel : Kernel σ) (tracefs : Tracefs) (image : Elf.Image)
    (session : Session σ) :
    let outcome := loadImage kernel tracefs image session
    ∃ calls, outcome.2.calls = session.calls ++ calls ∧
      Honest kernel outcome.1 calls outcome.2.files := by
  intro outcome
  obtain ⟨result, same⟩ := loadImage_eq kernel tracefs image session
  obtain ⟨calls, added, given, reported⟩ := honest_passes kernel tracefs image session rfl
  refine ⟨calls, same.trans added, given, ?_⟩
  rw [show outcome.1 = _ from result]
  exact reported

end Load

end ProbeStream
