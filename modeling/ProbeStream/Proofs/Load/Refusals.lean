import ProbeStream.Proofs.Fs.Files
import ProbeStream.Proofs.Load.Course

/-!
# What ends a load

An image is *defective* (`IsDefective`) if

- it has a section `version` that is no word,
- it has a section `maps` that is no whole number of records, or
- it has no symbols although a relocation section targets a program.

A *refusal* (`Refusal`) is something that was not done for the load: the last call to the kernel
failed, or the probe of the program accepted last could not be registered, or the number of its
event could not be read.

A load ends well exactly if its image is not defective and nothing was refused, and an image that is
not defective fails with nothing but what was refused (`loadImage_ok_iff`). So no entry that cannot
be resolved, no missing symbol or map, no name without a target and no unknown section ends a load.

Each step of a load is judged in the same way (`Decides`), and the judgement of a sequence is put
together from those of its steps (`Runs.bindDecides`).
-/

namespace ProbeStream

/-- What a load that this call ends reports as its cause. A load that could not raise the memory
limit reports the program that lacked permission. -/
def KernelCall.blame? : KernelCall → Option IoError
  | .createMap _ (.error failure) => some failure
  | .loadProgram _ (.error refusal) => some refusal.failure
  | .raiseMemoryLimit (.error _) => some (.system .notPermitted)
  | .openEvent _ (.error failure) => some failure
  | .enableEvent _ (.error failure) => some failure
  | .attachProgram _ _ (.error failure) => some failure
  | _ => none

/-- Calls of which the last one failed are not untroubled. -/
theorem not_untroubled_of_last {before : List KernelCall} {last : KernelCall}
    (failed : last.failed) : ¬ Untroubled (before ++ [last]) := by
  induction before with
  | nil => exact fun untroubled => by cases untroubled.1 failed
  | cons call rest ih => exact fun untroubled => ih untroubled.2

theorem KernelCall.failed_of_blame? {call : KernelCall} {cause : IoError}
    (blamed : call.blame? = some cause) : call.failed := by
  unfold blame? at blamed
  split at blamed <;> first | rfl | cases blamed

namespace Load

/-- What was refused to a load that has made these calls and left these files, and the error that
reports it. -/
inductive Refusal (tracefs : Tracefs) (calls : List KernelCall) (files : Fs.Tree) :
    LoadError → Prop
  /-- The last call failed. -/
  | call {before : List KernelCall} {last : KernelCall} {cause : IoError} {failure : LoadError} :
      calls = before ++ [last] → last.blame? = some cause → failure.cause? = some cause →
      Refusal tracefs calls files failure
  /-- The probe of the program accepted last cannot be registered. -/
  | registration {request : ProgramRequest} {handle : Handle} {category : Bpf.Category}
      {symbol : String} {cause : IoError} :
      (granted calls).getLast? = some (request, handle) →
      Bpf.Category.ofSectionName request.sectionName = .ok category →
      category.target? = some symbol →
      Attacher.registered ⟨tracefs, request.license, request.kernelVersion⟩ category files =
        .error cause →
      Refusal tracefs calls files (.resource s!"failed to create kprobe '{symbol}'" cause)
  /-- The event of the program accepted last has no number. -/
  | number {request : ProgramRequest} {handle : Handle} {category : Bpf.Category} {path : String}
      {fault : Tracefs.EventIdFault} :
      (granted calls).getLast? = some (request, handle) →
      Bpf.Category.ofSectionName request.sectionName = .ok category →
      Attacher.idFile? ⟨tracefs, request.license, request.kernelVersion⟩ category = some path →
      Tracefs.readEventId files path = .error fault →
      Refusal tracefs calls files (.resource fault.attempt fault.failure)

variable {σ α β : Type} {files : Fs.Tree} {tracefs : Tracefs} {calls : List KernelCall}
  {failure : LoadError}

namespace Refusal

/-- What was refused is not what was done before. -/
theorem behind (refusal : Refusal tracefs calls files failure) (before : List KernelCall) :
    Refusal tracefs (before ++ calls) files failure := by
  have last {accepted : ProgramRequest × Handle}
      (known : (granted calls).getLast? = some accepted) :
      (granted (before ++ calls)).getLast? = some accepted := by
    rw [granted_append, List.getLast?_append, known, Option.some_or]
  cases refusal with
  | call ends blamed causes => exact .call (by rw [ends, List.append_assoc]) blamed causes
  | registration known named target failed => exact .registration (last known) named target failed
  | number known named path failed => exact .number (last known) named path failed

/-- What was refused is reported as a refusal. -/
theorem isResource (refusal : Refusal tracefs calls files failure) : failure.isResource := by
  cases refusal with
  | call _ _ causes =>
    cases failure with
    | format complaint => cases causes
    | _ => rfl
  | _ => rfl

end Refusal

/-- A step ends well only if what it looks at is sound, and if that is so, it fails only when
something was refused. -/
def Decides (tracefs : Tracefs) (sound : Prop) :
    Except LoadError α → List KernelCall → Fs.Tree → Prop
  | .ok _, _, _ => sound
  | .error failure, calls, files => sound → Refusal tracefs calls files failure

theorem Decides.behind {sound : Prop} {result : Except LoadError α}
    (decides : Decides tracefs sound result calls files) (before : List KernelCall) :
    Decides tracefs sound result (before ++ calls) files := by
  cases result with
  | ok _ => exact decides
  | error failure => exact fun holds => (decides holds).behind before

namespace Runs

variable {step : Load σ α} {next : α → Load σ β} {first second : Prop}

theorem decidesIff (runs : Runs files step (Decides tracefs first)) (same : first ↔ second) :
    Runs files step (Decides tracefs second) :=
  propext same ▸ runs

/-- A sequence looks at what its steps look at. -/
theorem bindDecides (runs : Runs files step (Decides tracefs first))
    (goesOn : ∀ value middle, Runs middle (next value) (Decides tracefs second)) :
    Runs files (step >>= next) (Decides tracefs (first ∧ second)) := by
  refine Runs.bind runs (fun _ _ _ refused sound => refused sound.1) ?_
  intro value before middle sound
  refine (goesOn value middle).weaken ?_
  intro result calls after decides
  refine Decides.behind ?_ before
  cases result with
  | ok _ => exact ⟨sound, decides⟩
  | error failure => exact fun both => decides both.2

/-- A sequence of which only the second step looks at anything. -/
theorem bindDecidesSecond (runs : Runs files step (Decides tracefs True))
    (goesOn : ∀ value middle, Runs middle (next value) (Decides tracefs second)) :
    Runs files (step >>= next) (Decides tracefs second) :=
  (Runs.bindDecides runs goesOn).decidesIff (Iff.of_eq (true_and second))

/-- A sequence of which only the first step looks at anything. -/
theorem bindDecidesFirst (runs : Runs files step (Decides tracefs first))
    (goesOn : ∀ value middle, Runs middle (next value) (Decides tracefs True)) :
    Runs files (step >>= next) (Decides tracefs first) :=
  (Runs.bindDecides runs goesOn).decidesIff (Iff.of_eq (and_true first))

end Runs

/-! ## Programs -/

/-- The last of some calls has failed, and that is what was refused. -/
theorem refusal_of_last (before : List KernelCall) {last : KernelCall} {cause : IoError}
    (blamed : last.blame? = some cause) (causes : failure.cause? = some cause) :
    Refusal tracefs (before ++ [last]) files failure :=
  .call rfl blamed causes

theorem decides_load (kernel : Kernel σ) (attacher : Attacher) (submission : Submission) :
    Runs files (attacher.load kernel submission.name submission.category submission.instructions)
      (Decides tracefs True) := by
  refine Runs.request fun answer => ?_
  cases answer with
  | ok handle => exact Runs.pure trivial
  | error refusal =>
    show Runs files (if refusal.isPermissionDenied then _ else _) _
    by_cases denied : refusal.isPermissionDenied
    · have lacked : refusal.failure = .system .notPermitted := beq_iff_eq.mp denied
      rw [if_pos denied]
      refine Runs.still (still_note _ _) fun _ => Runs.request fun raised => ?_
      cases raised with
      | error failure =>
        refine Runs.still (still_note _ _) fun _ => Runs.throw fun _ => ?_
        exact refusal_of_last [_] rfl (congrArg some lacked)
      | ok _ =>
        refine Runs.request fun second => ?_
        cases second with
        | error refusal => exact Runs.throw fun _ => refusal_of_last [_, _] rfl rfl
        | ok handle => exact Runs.pure trivial
    · rw [if_neg denied]
      exact Runs.throw fun _ => refusal_of_last [] rfl rfl

theorem decides_hookUp (kernel : Kernel σ) (name : String) (program : Handle) (id : UInt64) :
    Runs files (Attacher.hookUp kernel name program id) (Decides tracefs True) := by
  refine Runs.request fun opened => Runs.require ?_ ?_
  · rintro failure rfl _
    exact refusal_of_last [] rfl rfl
  · rintro event rfl
    refine Runs.request fun enabled => ?_
    cases enabled with
    | error failure =>
      refine Runs.still (still_close kernel event false) fun _ => Runs.throw fun _ => ?_
      exact refusal_of_last [_] rfl rfl
    | ok _ =>
      refine Runs.request fun attached => ?_
      cases attached with
      | error failure =>
        refine Runs.still (still_close kernel event true) fun _ => Runs.throw fun _ => ?_
        exact refusal_of_last [_, _] rfl rfl
      | ok _ => exact Runs.still (still_hold event) fun _ => Runs.pure trivial

theorem decides_attach (kernel : Kernel σ) (attacher : Attacher) (submission : Submission)
    (named : Bpf.Category.ofSectionName submission.name = .ok submission.category) :
    Runs files (attacher.attach kernel submission.name submission.category submission.instructions)
      (Decides attacher.tracefs True) := by
  refine Runs.bind ((attacher.runs_load kernel submission).both
    (decides_load kernel attacher submission)) (fun _ _ _ refused => refused.2) ?_
  rintro program calls middle ⟨⟨rfl, submits⟩, _⟩
  have known : (granted calls).getLast? = some (submission.request attacher, program) := by
    rw [submits.granted_eq]
    rfl
  refine Runs.still (still_note _ _) fun _ => ?_
  refine Runs.bind (attacher.runs_eventIdPath submission.category) ?_ ?_
  · rintro failure none after ⟨rfl, rfl, symbol, cause, target, failed, rfl⟩ _
    rw [List.append_nil]
    exact .registration known named target failed
  · rintro path none changed ⟨rfl, idFile, _⟩
    cases path with
    | none => exact Runs.still (still_note _ _) fun _ => Runs.pure trivial
    | some path =>
      refine Runs.readFiles (Runs.require ?_ ?_)
      · intro fault failed _
        rw [List.nil_append, List.append_nil]
        exact .number known named idFile.symm failed
      · intro id _
        refine (Runs.bindDecidesFirst (decides_hookUp kernel submission.name program id)
          fun event after => ?_).weaken fun _ _ _ decides => decides.behind calls
        exact Runs.still (still_note _ _) fun _ => Runs.pure trivial

theorem decides_attachSection (kernel : Kernel σ) (attacher : Attacher) (part : Elf.Section)
    (programs : List LoadedProgram) :
    Runs files (attachSection kernel attacher part programs) (Decides attacher.tracefs True) := by
  rw [attachSection]
  cases named : Bpf.Category.ofSectionName part.name with
  | error fault => exact Runs.still (still_note _ _) fun _ => Runs.pure trivial
  | ok category =>
    exact Runs.bindDecidesFirst
      (decides_attach kernel attacher ⟨part.number, part.name, category, part.data⟩ named)
      fun program after => Runs.pure trivial

theorem decides_attachRemaining (kernel : Kernel σ) (attacher : Attacher) (done : List Nat)
    (parts : List Elf.Section) (programs : List LoadedProgram) :
    Runs files (attachRemaining kernel attacher done parts programs)
      (Decides attacher.tracefs True) := by
  induction parts generalizing programs files with
  | nil => exact Runs.pure trivial
  | cons part rest ih =>
    rw [attachRemaining]
    split
    · exact Runs.bindDecidesSecond (decides_attachSection kernel attacher part programs)
        fun all middle => ih all
    · exact ih programs

/-- Programs are relocated if there are symbols or none has to be. -/
def Relocatable (image : Elf.Image) (relocations : List Elf.Section) : Prop :=
  image.symbols = none → ∀ relocation ∈ relocations, ¬ TargetsProgram image relocation

theorem decides_attachRelocated (kernel : Kernel σ) (attacher : Attacher) (maps : Bpf.MapTable)
    (relocations : List Elf.Section) (image : Elf.Image) (done : List Nat)
    (programs : List LoadedProgram) :
    Runs files (attachRelocated kernel attacher maps relocations image done programs)
      (Decides attacher.tracefs (Relocatable image relocations)) := by
  induction relocations generalizing image done programs files with
  | nil => exact Runs.pure fun _ _ impossible => by cases impossible
  | cons relocation rest ih =>
    -- what the other relocation sections need is all that is needed
    have others (same : ¬ TargetsProgram image relocation) :
        Relocatable image rest ↔ Relocatable image (relocation :: rest) := by
      simp [Relocatable, same]
    rw [attachRelocated]
    cases found : image.section? relocation.info.toNat with
    | none =>
      refine (ih image done programs).decidesIff (others ?_)
      rintro ⟨target, there, _⟩
      rw [found] at there
      cases there
    | some target =>
      dsimp only
      by_cases program : Bpf.Category.isProgramSection target.name
      · rw [if_pos program]
        refine Runs.bind (runs_resolve image maps relocation target) ?_ ?_
        · rintro failure calls after ⟨rfl, rfl, symbolless⟩ sound
          exact absurd ⟨target, found, program⟩
            (sound symbolless relocation List.mem_cons_self)
        · rintro answer before middle ⟨rfl, rfl, symbols, _⟩
          -- there are symbols, so nothing is needed
          have relocatable (changed : Elf.Image) (same : changed.symbols = image.symbols) :
              Relocatable changed rest ↔ Relocatable image (relocation :: rest) :=
            ⟨fun _ symbolless => absurd symbolless symbols,
              fun _ symbolless => absurd (same ▸ symbolless) symbols⟩
          cases answer with
          | none => exact (ih image _ programs).decidesIff (relocatable image rfl)
          | some resolved =>
            exact (Runs.bindDecidesSecond (decides_attachSection kernel attacher resolved programs)
              fun all middle => ih _ _ all).decidesIff (relocatable _ rfl)
      · rw [if_neg program]
        refine Runs.still (still_note _ _) fun _ => (ih image _ programs).decidesIff (others ?_)
        rintro ⟨other, there, isProgram⟩
        obtain rfl := Option.some.inj (found.symm.trans there)
        exact program isProgram

theorem decides_attachPrograms (kernel : Kernel σ) (tracefs : Tracefs) (image : Elf.Image)
    (found : Metadata) :
    Runs files (attachPrograms kernel tracefs image found)
      (Decides tracefs (Relocatable image (relocationSections image))) := by
  refine Runs.bindDecidesFirst (decides_attachRelocated kernel
    ⟨tracefs, found.license, found.kernelVersion⟩ found.maps (relocationSections image) image []
    []) ?_
  rintro ⟨patched, done, programs⟩ middle
  exact Runs.bindDecidesFirst (decides_attachRemaining kernel
      ⟨tracefs, found.license, found.kernelVersion⟩ done patched.sections programs)
    fun all after => Runs.still (still_note _ _) fun _ => Runs.pure trivial

/-! ## The first pass -/

theorem decides_createMap (kernel : Kernel σ) (index : Nat) (definition : Bpf.MapDefinition)
    (name : Option String) (maps : Bpf.MapTable) :
    Runs files (createMap kernel index definition name maps) (Decides tracefs True) := by
  refine Runs.request fun answer => Runs.require ?_ ?_
  · rintro failure rfl _
    exact refusal_of_last [] rfl rfl
  · rintro handle rfl
    refine Runs.still (still_note _ _) fun _ => ?_
    dsimp only
    split
    · exact Runs.still (still_noteAll _) fun _ => Runs.pure trivial
    · exact Runs.pure trivial

theorem decides_createMaps (kernel : Kernel σ) (index : Nat)
    (definitions : List Bpf.MapDefinition) (names : List (Option String)) (maps : Bpf.MapTable) :
    Runs files (createMaps kernel index definitions names maps) (Decides tracefs True) := by
  induction definitions generalizing index names maps files with
  | nil => exact Runs.pure trivial
  | cons definition rest ih =>
    exact Runs.bindDecidesSecond (decides_createMap kernel index definition _ maps)
      fun one middle => ih (index + 1) names.tail one

/-- A section of maps must be a whole number of records. -/
theorem decides_readMaps (kernel : Kernel σ) (image : Elf.Image) (part : Elf.Section) :
    Runs files (readMaps kernel image part)
      (Decides tracefs (part.data.length % Bpf.mapRecordSize = 0)) := by
  rw [readMaps, Bpf.mapDefinitions]
  split
  · next whole =>
    refine Runs.require (fun _ impossible => by cases impossible) fun definitions _ => ?_
    exact (decides_createMaps kernel 0 definitions _ .empty).decidesIff (by simp [whole])
  · next broken =>
    exact Runs.require (fun _ _ sound => absurd sound broken) fun _ impossible => by
      cases impossible

/-- A section must not be malformed. -/
theorem decides_readSection (kernel : Kernel σ) (image : Elf.Image) (found : Metadata)
    (part : Elf.Section) :
    Runs files (readSection kernel image found part)
      (Decides tracefs (isMalformed part = false)) := by
  rw [readSection]
  by_cases license : part.name = "license"
  · have sound : isMalformed part = false := by simp [isMalformed, license]
    rw [if_pos license]
    exact Runs.pure sound
  rw [if_neg license]
  by_cases version : part.name = "version"
  · have sound : part.data.length = 4 ↔ isMalformed part = false := by
      simp [isMalformed, version]
    rw [if_pos version, readVersion]
    split
    · next word => exact Runs.pure (sound.mp word)
    · next broken => exact Runs.throw fun wellFormed => absurd (sound.mpr wellFormed) broken
  rw [if_neg version]
  by_cases maps : part.name = "maps"
  · rw [if_pos maps]
    exact (Runs.bindDecidesFirst (decides_readMaps kernel image part)
      fun table middle => Runs.pure trivial).decidesIff (by simp [isMalformed, maps])
  · have sound : isMalformed part = false := by simp [isMalformed, version, maps]
    rw [if_neg maps]
    exact Runs.pure sound

theorem decides_readSections (kernel : Kernel σ) (image : Elf.Image) (parts : List Elf.Section)
    (found : Metadata) :
    Runs files (readSections kernel image parts found)
      (Decides tracefs (∀ part ∈ parts, isMalformed part = false)) := by
  induction parts generalizing found files with
  | nil => exact Runs.pure fun _ impossible => by cases impossible
  | cons part rest ih =>
    exact (Runs.bindDecides (decides_readSection kernel image found part)
      fun middle after => ih middle).decidesIff (by rw [List.forall_mem_cons])

theorem decides_prepare (kernel : Kernel σ) (tracefs : Tracefs) (image : Elf.Image) :
    Runs files (prepare kernel tracefs image)
      (Decides tracefs (∀ part ∈ image.sections, isMalformed part = false)) :=
  runs_prepare_of_reads (decides_readSections kernel image image.sections _)

/-! ## The whole load -/

/-- An image that cannot be loaded, whatever the kernel and the tracing directory do. -/
inductive IsDefective (image : Elf.Image) : Prop
  | version {part : Elf.Section} : part ∈ image.sections → part.name = "version" →
      part.data.length ≠ 4 → IsDefective image
  | maps {part : Elf.Section} : part ∈ image.sections → part.name = "maps" →
      part.data.length % Bpf.mapRecordSize ≠ 0 → IsDefective image
  | symbols {relocation target : Elf.Section} : image.symbols = none →
      relocation ∈ image.sections → relocation.isRelocation →
      image.section? relocation.info.toNat = some target →
      Bpf.Category.isProgramSection target.name → IsDefective image

theorem not_isDefective_iff {image : Elf.Image} : ¬ IsDefective image ↔
    (∀ part ∈ image.sections, isMalformed part = false) ∧
      Relocatable image (relocationSections image) := by
  constructor
  · intro sound
    constructor
    · intro part member
      rw [Bool.eq_false_iff]
      intro malformed
      simp only [isMalformed, Bool.or_eq_true, Bool.and_eq_true, beq_iff_eq,
        bne_iff_ne] at malformed
      rcases malformed with ⟨version, broken⟩ | ⟨maps, broken⟩
      · exact sound (.version member version broken)
      · exact sound (.maps member maps broken)
    · rintro symbolless relocation member ⟨target, found, program⟩
      obtain ⟨present, isRelocation⟩ := List.mem_filter.mp member
      exact sound (.symbols symbolless present isRelocation found program)
  · rintro ⟨wellFormed, relocatable⟩ defective
    cases defective with
    | version member version broken =>
      simpa [isMalformed, version, broken] using wellFormed _ member
    | maps member maps broken =>
      simpa [isMalformed, maps, broken] using wellFormed _ member
    | symbols symbolless present isRelocation found program =>
      exact relocatable symbolless _ (List.mem_filter.mpr ⟨present, isRelocation⟩)
        ⟨_, found, program⟩

theorem decides_passes (kernel : Kernel σ) (tracefs : Tracefs) (image : Elf.Image) :
    Runs files (passes kernel tracefs image) (Decides tracefs (¬ IsDefective image)) :=
  (Runs.bindDecides (decides_prepare kernel tracefs image) fun found _ =>
    decides_attachPrograms kernel tracefs image found).decidesIff not_isDefective_iff.symm

/-! ### Loads that end well -/

/-- A probe that was registered can be registered again. -/
theorem exists_registered_again {attacher : Attacher} {category : Bpf.Category}
    {after : Fs.Tree} (registered : attacher.registered category files = .ok after) :
    ∃ again, attacher.registered category after = .ok again := by
  have probe {kind : ProbeKind} {symbol : String}
      (appended : attacher.tracefs.registerProbe kind symbol files = .ok after) :
      ∃ again, attacher.tracefs.registerProbe kind symbol after = .ok again := by
    obtain ⟨content, there⟩ := Fs.Tree.exists_read_of_append appended
    exact Fs.Tree.exists_append there _
  cases category with
  | kprobe symbol => exact probe registered
  | kretprobe symbol => exact probe registered
  | _ => exact ⟨after, rfl⟩

/-- Once a program is attached, its probe can be registered and the number of its event can be
read. -/
theorem not_refused_of_group {attacher : Attacher} {submission : Submission} {after : Fs.Tree}
    {program : LoadedProgram}
    (group : Group attacher submission files calls (some program) after) :
    (∃ again, attacher.registered submission.category after = .ok again) ∧
      ∀ path, attacher.idFile? submission.category = some path →
        ∃ id, Tracefs.readEventId after path = .ok id := by
  generalize outcome : some program = ended at group
  cases group with
  | refused _ => cases outcome
  | alone _ noFile =>
    refine ⟨⟨_, Attacher.registered_of_idFile?_eq_none noFile⟩, ?_⟩
    intro path impossible
    rw [noFile] at impossible
    cases impossible
  | unregistered _ _ => cases outcome
  | unnumbered _ _ _ _ => cases outcome
  | numbered _ registered idFile number _ =>
    refine ⟨exists_registered_again registered, ?_⟩
    intro path same
    obtain rfl := Option.some.inj (idFile.symm.trans same)
    exact ⟨_, number⟩

/-- Of several programs that were all attached, the last one was accepted last. -/
theorem exists_last_group {attacher : Attacher} {plan : List Submission} {after : Fs.Tree}
    {programs : List LoadedProgram}
    (groups : Groups attacher plan files calls (some programs) after) :
    (granted calls = [] ∧ after = files) ∨
      ∃ submission ∈ plan, ∃ handle program before own,
        (granted calls).getLast? = some (submission.request attacher, handle) ∧
          Group attacher submission before own (some program) after := by
  generalize outcome : some programs = ended at groups
  induction groups generalizing programs with
  | done => exact .inl ⟨rfl, rfl⟩
  | stopped _ => cases outcome
  | @attached submission rest _ _ _ own _ _ _ group _ ih =>
    obtain ⟨tail, rfl, _⟩ := Option.map_eq_some_iff.mp outcome.symm
    right
    rcases ih rfl with ⟨none, rfl⟩ | ⟨other, member, handle, program, before, last, known, others⟩
    · obtain ⟨accepted, single, request⟩ := List.map_eq_singleton_iff.mp group.loads.requests
      refine ⟨submission, List.mem_cons_self, accepted.2, _, _, own, ?_, group⟩
      rw [granted_append, none, List.append_nil, single]
      exact congrArg some (Prod.ext request rfl)
    · refine ⟨other, List.mem_cons_of_mem submission member, handle, program, before, last, ?_,
        others⟩
      rw [granted_append, List.getLast?_append, known, Option.some_or]

/-- Nothing was refused to a load that ends well. -/
theorem not_refusal_of_loaded {image : Elf.Image} {loaded : LoadedObject} {after : Fs.Tree}
    (course : Course tracefs image files (.ok loaded) calls after) :
    ¬ Refusal tracefs calls after failure := by
  cases course with
  | @loaded mapCalls groupCalls _ _ _ creates _ _ groups =>
    -- what is known of the program accepted last
    have attached {request : ProgramRequest} {handle : Handle} {category : Bpf.Category}
        (known : (granted (mapCalls ++ groupCalls)).getLast? = some (request, handle))
        (named : Bpf.Category.ofSectionName request.sectionName = .ok category) :
        let attacher : Attacher := ⟨tracefs, request.license, request.kernelVersion⟩
        (∃ again, attacher.registered category after = .ok again) ∧
          ∀ path, attacher.idFile? category = some path →
            ∃ id, Tracefs.readEventId after path = .ok id := by
      rw [granted_of_creates creates] at known
      rcases exists_last_group groups with ⟨none, _⟩ |
        ⟨submission, planned, _, _, _, _, last, group⟩
      · rw [none] at known
        cases known
      · obtain ⟨attempt, member, rfl⟩ := List.mem_map.mp planned
        obtain ⟨rfl, _⟩ := Prod.mk.inj (Option.some.inj (last.symm.trans known))
        cases named.symm.trans (mem_attempts member).2.1
        exact not_refused_of_group group
    intro refusal
    cases refusal with
    | call ends blamed _ =>
      have untroubled : Untroubled (mapCalls ++ groupCalls) :=
        Untroubled.append creates.orderly groups.orderly
      rw [ends] at untroubled
      exact not_untroubled_of_last (KernelCall.failed_of_blame? blamed) untroubled
    | registration known named _ failed =>
      obtain ⟨again, registered⟩ := (attached known named).1
      rw [registered] at failed
      cases failed
    | number known named idFile failed =>
      obtain ⟨id, number⟩ := (attached known named).2 _ idFile
      rw [number] at failed
      cases failed

/-- When a load ends well, and why it fails otherwise, whatever the image, the kernel and the
tracing directory.

- It ends well exactly if the image is not defective and nothing was refused: the last call has not
  failed, and the program accepted last has its probe and the number of its event. A program that
  lacked permission and was accepted when it was tried once more is no refusal.
- A load of an image that is not defective fails with what was refused, never with a complaint about
  the format of the image. -/
theorem loadImage_ok_iff (kernel : Kernel σ) (tracefs : Tracefs) (image : Elf.Image)
    (session : Session σ) :
    let outcome := loadImage kernel tracefs image session
    ∃ calls, outcome.2.calls = session.calls ++ calls ∧
      ((∃ loaded, outcome.1 = .ok loaded) ↔
        ¬ IsDefective image ∧ ∀ failure, ¬ Refusal tracefs calls outcome.2.files failure) ∧
      ∀ failure, outcome.1 = .error failure → IsDefective image ∨
        failure.isResource ∧ Refusal tracefs calls outcome.2.files failure := by
  intro outcome
  obtain ⟨result, same⟩ := loadImage_eq kernel tracefs image session
  obtain ⟨calls, added, course, decides⟩ := ((runs_passes kernel tracefs image).both
    (decides_passes kernel tracefs image)) session rfl
  refine ⟨calls, same.trans added, ?_⟩
  rw [show outcome.1 = _ from result,
    show outcome.2.files = _ from files_loadImage kernel tracefs image session]
  generalize (passes kernel tracefs image session).1 = ended at course decides ⊢
  generalize (passes kernel tracefs image session).2.files = after at course decides ⊢
  cases ended with
  | ok loaded =>
    refine ⟨⟨fun _ => ⟨decides, fun failure => not_refusal_of_loaded course⟩,
      fun _ => ⟨loaded, rfl⟩⟩, ?_⟩
    intro failure impossible
    cases impossible
  | error failure =>
    constructor
    · constructor
      · rintro ⟨loaded, impossible⟩
        cases impossible
      · rintro ⟨sound, granted⟩
        exact absurd (decides sound) (granted failure)
    · intro other same
      obtain rfl := Except.error.inj same
      by_cases defective : IsDefective image
      · exact .inl defective
      · exact .inr ⟨(decides defective).isResource, decides defective⟩

end Load

end ProbeStream
