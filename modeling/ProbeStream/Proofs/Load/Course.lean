import ProbeStream.Proofs.Load.Attempts
import ProbeStream.Proofs.Load.Maps

/-!
# The course of a load

Whatever the image, the kernel and the tracing directory, a load takes one of four courses
(`Course`):

- the first pass fails;
- it ends well, but a program is to be relocated and there are no symbols;
- the programs are attached one after the other, up to one that fails;
- all of them are attached, and the load ends well.

The calls are those of the maps and then one group for each program, in the order of `attempts`
(`course_loadImage`).
-/

namespace ProbeStream

namespace Load

variable {σ : Type} {files : Fs.Tree}

/-- What a load of an image does when it begins with some files: its result, its calls, and the
files that it leaves. -/
inductive Course (tracefs : Tracefs) (image : Elf.Image) (files : Fs.Tree) :
    Except LoadError LoadedObject → List KernelCall → Fs.Tree → Prop
  | unprepared {failure : LoadError} {calls : List KernelCall} {handles : Option (List Handle)} :
      Creates (definedMaps image) calls handles →
      handles = none ∨ (∃ part ∈ image.sections, isMalformed part) →
      Course tracefs image files (.error failure) calls (cleared tracefs files)
  | symbolless {failure : LoadError} {calls : List KernelCall} {handles : List Handle}
      {relocation target : Elf.Section} :
      Creates (definedMaps image) calls (some handles) →
      (∀ part ∈ image.sections, isMalformed part = false) →
      image.symbols = none → relocation ∈ relocationSections image →
      image.section? relocation.info.toNat = some target →
      Bpf.Category.isProgramSection target.name →
      Course tracefs image files (.error failure) calls (cleared tracefs files)
  | stopped {failure : LoadError} {mapCalls calls : List KernelCall} {handles : List Handle}
      {found : Metadata} {after : Fs.Tree} :
      Creates (definedMaps image) mapCalls (some handles) →
      (∀ part ∈ image.sections, isMalformed part = false) →
      Provisioned image mapCalls found.maps →
      Groups ⟨tracefs, found.license, found.kernelVersion⟩
        ((attempts image found.maps).map (·.submission image found.maps))
        (cleared tracefs files) calls none after →
      Course tracefs image files (.error failure) (mapCalls ++ calls) after
  | loaded {mapCalls calls : List KernelCall} {handles : List Handle} {loaded : LoadedObject}
      {after : Fs.Tree} :
      Creates (definedMaps image) mapCalls (some handles) →
      (∀ part ∈ image.sections, isMalformed part = false) →
      Provisioned image mapCalls loaded.maps →
      Groups ⟨tracefs, loaded.license, loaded.kernelVersion⟩
        ((attempts image loaded.maps).map (·.submission image loaded.maps))
        (cleared tracefs files) calls (some loaded.programs) after →
      Course tracefs image files (.ok loaded) (mapCalls ++ calls) after

/-! ## Attaching programs -/

/-- What became of a step that was to attach the programs of a plan and to add them to others. -/
def Attaches (attacher : Attacher) (plan : List Submission) (programs : List LoadedProgram)
    (files : Fs.Tree) (result : Except LoadError (List LoadedProgram)) (calls : List KernelCall)
    (after : Fs.Tree) : Prop :=
  match result with
  | .ok all => ∃ loaded, all = programs ++ loaded ∧
      Groups attacher plan files calls (some loaded) after
  | .error _ => Groups attacher plan files calls none after

theorem Attaches.nothing {attacher : Attacher} {programs : List LoadedProgram} :
    Attaches attacher [] programs files (.ok programs) [] files :=
  ⟨[], (List.append_nil programs).symm, .done⟩

/-- A step that attaches more programs behind those of a plan. -/
theorem Attaches.goOn {attacher : Attacher} {plan others : List Submission}
    {programs loaded : List LoadedProgram} {middle after : Fs.Tree} {calls more : List KernelCall}
    {result : Except LoadError (List LoadedProgram)}
    (first : Groups attacher plan files calls (some loaded) middle)
    (second : Attaches attacher others (programs ++ loaded) middle result more after) :
    Attaches attacher (plan ++ others) programs files result (calls ++ more) after := by
  cases result with
  | error failure => exact first.append second
  | ok all =>
    obtain ⟨others, rfl, groups⟩ := second
    exact ⟨loaded ++ others, List.append_assoc _ _ _, first.append groups⟩

theorem runs_attachSection (kernel : Kernel σ) (attacher : Attacher) (part : Elf.Section)
    (programs : List LoadedProgram) :
    Runs files (attachSection kernel attacher part programs)
      (Attaches attacher (submission? part part.data).toList programs files) := by
  rw [attachSection, submission?]
  cases Bpf.Category.ofSectionName part.name with
  | error fault => exact Runs.still (still_note _ _) fun _ => Runs.pure .nothing
  | ok category =>
    let submission : Submission := ⟨part.number, part.name, category, part.data⟩
    refine Runs.bind (attacher.runs_attach kernel submission) ?_ ?_
    · intro failure calls after group
      exact .stopped group
    · intro program calls after group
      have groups := Groups.attached group .done
      rw [List.append_nil] at groups
      refine Runs.pure ?_
      rw [List.append_nil]
      exact ⟨[program], rfl, groups⟩

theorem runs_attachRemaining (kernel : Kernel σ) (attacher : Attacher) (done : List Nat)
    (parts : List Elf.Section) (programs : List LoadedProgram) :
    Runs files (attachRemaining kernel attacher done parts programs)
      (Attaches attacher (parts.filterMap (remaining? done)) programs files) := by
  induction parts generalizing programs files with
  | nil => exact Runs.pure .nothing
  | cons part rest ih =>
    rw [filterMap_cons_eq, attachRemaining, remaining?]
    split
    · refine Runs.bind (runs_attachSection kernel attacher part programs) ?_ ?_
      · intro failure calls after groups
        exact Groups.stop groups
      · rintro all calls middle ⟨loaded, rfl, groups⟩
        exact (ih _).weaken fun _ _ _ more => .goOn groups more
    · exact ih programs

/-! ## Resolving -/

/-- Resolving changes nothing but the log, and fails without symbols only. -/
theorem runs_resolve (image : Elf.Image) (maps : Bpf.MapTable) (relocation target : Elf.Section) :
    Runs files (resolve image maps relocation target : Load σ (Option Elf.Section))
      fun result calls after => calls = [] ∧ after = files ∧ match result with
        | .ok answer => image.symbols ≠ none ∧
            answer = (resolved? image maps relocation target).map fun data =>
              { target with data := data }
        | .error _ => image.symbols = none := by
  unfold resolve resolved?
  cases symbols : image.symbols with
  | none => exact Runs.throw ⟨rfl, rfl, rfl⟩
  | some found =>
    dsimp only [Option.getD_some]
    cases Bpf.relocate image.order target.data relocation.relocations found maps with
    | error fault =>
      exact Runs.still (still_note _ _) fun _ => Runs.pure ⟨rfl, rfl, Option.some_ne_none _, rfl⟩
    | ok good =>
      exact Runs.still (still_noteAll _) fun _ => Runs.still (still_note _ _) fun _ =>
        Runs.pure ⟨rfl, rfl, Option.some_ne_none _, rfl⟩

/-! ## The second pass -/

/-- A relocation section has a program as its target. -/
def TargetsProgram (image : Elf.Image) (relocation : Elf.Section) : Prop :=
  ∃ target, image.section? relocation.info.toNat = some target ∧
    Bpf.Category.isProgramSection target.name

/-- What became of the second pass from some relocation sections on: its attempts were made, up to
one that failed, or nothing was done for want of symbols. If it has come to its end, its marks are
those of all relocation sections. -/
def Relocates (attacher : Attacher) (image : Elf.Image) (maps : Bpf.MapTable)
    (earlier relocations : List Elf.Section) (done : List Nat) (programs : List LoadedProgram)
    (files : Fs.Tree) (result : Except LoadError (Elf.Image × List Nat × List LoadedProgram))
    (calls : List KernelCall) (after : Fs.Tree) : Prop :=
  (Attaches attacher ((relocatedAttempts image maps earlier relocations).map
      (·.submission image maps)) programs files (result.map (·.2.2)) calls after ∧
    ∀ patched marked all, result = .ok (patched, marked, all) →
      patched = patchedBy image maps (earlier ++ relocations) ∧
        marked = done ++ relocations.flatMap (marks image)) ∨
  ((∃ failure, result = .error failure) ∧ calls = [] ∧ after = files ∧ image.symbols = none ∧
    ∃ relocation ∈ relocations, TargetsProgram image relocation)

/-- The second pass goes on behind the program of one relocation section, or behind none. -/
theorem Relocates.behind {attacher : Attacher} {image : Elf.Image} {maps : Bpf.MapTable}
    {earlier rest : List Elf.Section} {relocation : Elf.Section} {done : List Nat}
    {programs loaded : List LoadedProgram} {middle after : Fs.Tree} {calls more : List KernelCall}
    {result : Except LoadError (Elf.Image × List Nat × List LoadedProgram)}
    (first : Groups attacher ((relocatedAttempt? image maps earlier relocation).toList.map
      (·.submission image maps)) files calls (some loaded) middle)
    (quiet : image.symbols = none → calls = [] ∧ middle = files)
    (others : Relocates attacher image maps (earlier ++ [relocation]) rest
      (done ++ marks image relocation) (programs ++ loaded) middle result more after) :
    Relocates attacher image maps earlier (relocation :: rest) done programs files result
      (calls ++ more) after := by
  rcases others with ⟨attaches, ended⟩ | ⟨failed, rfl, rfl, symbolless, other, member, targets⟩
  · left
    rw [relocatedAttempts, List.map_append]
    refine ⟨.goOn first attaches, fun patched marked all same => ?_⟩
    obtain ⟨rfl, rfl⟩ := ended patched marked all same
    rw [List.append_assoc, List.append_assoc, List.flatMap_cons]
    exact ⟨rfl, rfl⟩
  · right
    obtain ⟨rfl, rfl⟩ := quiet symbolless
    exact ⟨failed, rfl, rfl, symbolless, other, List.mem_cons_of_mem relocation member, targets⟩

/-- The second pass goes on behind a relocation section whose entries are not resolved anywhere. -/
theorem Relocates.skip {attacher : Attacher} {image : Elf.Image} {maps : Bpf.MapTable}
    {earlier rest : List Elf.Section} {relocation : Elf.Section} {done : List Nat}
    {programs : List LoadedProgram} {after : Fs.Tree} {calls : List KernelCall}
    {result : Except LoadError (Elf.Image × List Nat × List LoadedProgram)}
    (none : ∀ part ∈ image.sections, resolves image maps relocation part = false)
    (others : Relocates attacher image maps (earlier ++ [relocation]) rest
      (done ++ marks image relocation) programs files result calls after) :
    Relocates attacher image maps earlier (relocation :: rest) done programs files result calls
      after := by
  have groups : Groups attacher
      ((relocatedAttempt? image maps earlier relocation).toList.map (·.submission image maps))
      files [] (some []) files := by
    rw [relocatedAttempt?_eq_none none]
    exact .done
  rw [← List.append_nil programs] at others
  exact others.behind groups fun _ => ⟨rfl, rfl⟩

/-- In a program of which some entries are resolved already, more of them are resolved if they are
good in the program as it was. -/
theorem runs_resolve_patchedPart (image : Elf.Image) (maps : Bpf.MapTable)
    (earlier : List Elf.Section) (relocation target : Elf.Section) :
    Runs files (resolve (patchedBy image maps earlier) maps relocation
        (patchedPart image maps earlier target) : Load σ (Option Elf.Section))
      fun result calls after => calls = [] ∧ after = files ∧ match result with
        | .ok answer => image.symbols ≠ none ∧ answer =
            (if (resolved? image maps relocation target).isSome then
              some (instructionsWith image maps target
                (entriesFor image maps earlier target ++ relocation.relocations))
            else none).map fun data => { target with data := data }
        | .error _ => image.symbols = none := by
  refine (runs_resolve _ maps relocation _).weaken ?_
  rintro result calls after ⟨rfl, rfl, ended⟩
  refine ⟨rfl, rfl, ?_⟩
  cases result with
  | error failure => exact ended
  | ok answer =>
    obtain ⟨symbols, rfl⟩ := ended
    have answered : resolved? (patchedBy image maps earlier) maps relocation
        (patchedPart image maps earlier target) =
          if (resolved? image maps relocation target).isSome then
            some (instructionsWith image maps target
              (entriesFor image maps earlier target ++ relocation.relocations))
          else none :=
      resolved?_instructionsWith (allGood_entriesFor image maps earlier target)
    rw [answered]
    exact ⟨symbols, rfl⟩

/-- What the second pass does with a program in which a relocation section is resolved, if it goes
on as it should. -/
theorem runs_attachResolved {kernel : Kernel σ} {attacher : Attacher} {image : Elf.Image}
    {maps : Bpf.MapTable} {earlier rest : List Elf.Section} {relocation target : Elf.Section}
    {done : List Nat} {programs : List LoadedProgram} (symbols : image.symbols ≠ none)
    (found : image.section? relocation.info.toNat = some target)
    (good : resolves image maps relocation target)
    (goesOn : ∀ all (middle : Fs.Tree), Runs middle
      (attachRelocated kernel attacher maps rest (patchedBy image maps (earlier ++ [relocation]))
        (done ++ marks image relocation) all)
      (Relocates attacher image maps (earlier ++ [relocation]) rest
        (done ++ marks image relocation) all middle)) :
    let data := instructionsWith image maps target
      (entriesFor image maps earlier target ++ relocation.relocations)
    Runs files (do
      let programs ← attachSection kernel attacher { target with data } programs
      attachRelocated kernel attacher maps rest
        ((patchedBy image maps earlier).withData target.number data)
        (done ++ marks image relocation) programs)
      (Relocates attacher image maps earlier (relocation :: rest) done programs files) := by
  intro data
  have planned : (submission? { target with data } data).toList =
      (relocatedAttempt? image maps earlier relocation).toList.map (·.submission image maps) := by
    rw [relocatedAttempt?_of_resolves found good, ← Option.toList_map, Attempt.submission_of?]
    rfl
  rw [withData_patchedBy (Elf.Image.section?_eq_some_iff.mp found).1 good]
  refine Runs.bind (runs_attachSection kernel attacher { target with data } programs) ?_ ?_
  · intro failure calls after groups
    left
    rw [relocatedAttempts, List.map_append, ← planned]
    exact ⟨Groups.stop groups, fun _ _ _ impossible => by cases impossible⟩
  · rintro all calls middle ⟨loaded, rfl, groups⟩
    rw [planned] at groups
    exact (goesOn _ middle).weaken fun _ _ _ others =>
      others.behind groups fun symbolless => absurd symbolless symbols

theorem runs_attachRelocated (kernel : Kernel σ) (attacher : Attacher) (image : Elf.Image)
    (maps : Bpf.MapTable) (earlier relocations : List Elf.Section) (done : List Nat)
    (programs : List LoadedProgram) :
    Runs files (attachRelocated kernel attacher maps relocations (patchedBy image maps earlier)
        done programs) (Relocates attacher image maps earlier relocations done programs files) := by
  induction relocations generalizing earlier done programs files with
  | nil =>
    refine Runs.pure (.inl ⟨.nothing, ?_⟩)
    rintro patched marked all same
    cases same
    rw [List.append_nil, List.flatMap_nil, List.append_nil]
    exact ⟨rfl, rfl⟩
  | cons relocation rest ih =>
    have skipped (none : ∀ part ∈ image.sections, resolves image maps relocation part = false) :
        Runs files
          (attachRelocated kernel attacher maps rest (patchedBy image maps earlier)
            (done ++ marks image relocation) programs)
          (Relocates attacher image maps earlier (relocation :: rest) done programs files) := by
      rw [← patchedBy_append_of_not_resolves none]
      exact (ih (earlier ++ [relocation]) _ programs).weaken fun _ _ _ others => others.skip none
    rw [attachRelocated, section?_patchedBy]
    cases found : image.section? relocation.info.toNat with
    | none =>
      have unmarked : done ++ marks image relocation = done := by simp [marks, found]
      rw [unmarked] at skipped
      exact skipped (resolves_eq_false_of_absent found)
    | some target =>
      have marked : mark done relocation = done ++ marks image relocation := by
        simp [mark, marks, found]
      rw [marked]
      have elsewhere := @resolves_eq_false_of_target image maps relocation target found
      dsimp only [Option.map_some]
      by_cases program : Bpf.Category.isProgramSection target.name
      · rw [if_pos (show Bpf.Category.isProgramSection
          (patchedPart image maps earlier target).name from program)]
        refine Runs.bind (runs_resolve_patchedPart image maps earlier relocation target) ?_ ?_
        · rintro failure calls after ⟨rfl, rfl, symbolless⟩
          exact .inr ⟨⟨failure, rfl⟩, rfl, rfl, symbolless, relocation, List.mem_cons_self, target,
            found, program⟩
        · rintro answer before middle ⟨rfl, rfl, symbols, rfl⟩
          by_cases good : (resolved? image maps relocation target).isSome
          · have number := (Elf.Image.section?_eq_some_iff.mp found).2
            have resolved : resolves image maps relocation target := by
              simp [resolves, number, program, good]
            rw [if_pos good]
            exact runs_attachResolved symbols found resolved fun all middle => ih _ _ all
          · rw [if_neg good]
            exact skipped (elsewhere (by simp [resolves, good]))
      · rw [if_neg (show ¬ Bpf.Category.isProgramSection
          (patchedPart image maps earlier target).name from program)]
        exact Runs.still (still_note _ _) fun _ => skipped (elsewhere (by simp [resolves, program]))

/-! ## The second and the third pass -/

/-- What became of the passes that attach programs. -/
def AttachesAll (tracefs : Tracefs) (image : Elf.Image) (found : Metadata) (files : Fs.Tree)
    (result : Except LoadError LoadedObject) (calls : List KernelCall) (after : Fs.Tree) : Prop :=
  let attacher : Attacher := ⟨tracefs, found.license, found.kernelVersion⟩
  let plan := (attempts image found.maps).map (·.submission image found.maps)
  match result with
  | .ok loaded => found = ⟨loaded.license, loaded.kernelVersion, loaded.maps⟩ ∧
      Groups attacher plan files calls (some loaded.programs) after
  | .error _ => Groups attacher plan files calls none after ∨
      (calls = [] ∧ after = files ∧ image.symbols = none ∧
        ∃ relocation ∈ relocationSections image, TargetsProgram image relocation)

theorem runs_attachPrograms (kernel : Kernel σ) (tracefs : Tracefs) (image : Elf.Image)
    (found : Metadata) :
    Runs files (attachPrograms kernel tracefs image found)
      (AttachesAll tracefs image found files) := by
  let attacher : Attacher := ⟨tracefs, found.license, found.kernelVersion⟩
  have second := @runs_attachRelocated σ files kernel attacher image found.maps []
    (relocationSections image) [] []
  rw [patchedBy_nil] at second
  refine Runs.bind second ?_ ?_
  · rintro failure calls after (⟨groups, _⟩ | ⟨_, rfl, rfl, symbolless, targeted⟩)
    · left
      rw [attempts, List.map_append]
      exact Groups.stop groups
    · exact .inr ⟨rfl, rfl, symbolless, targeted⟩
  · rintro ⟨patched, marked, programs⟩ before middle
      (⟨⟨loaded, same, groups⟩, ended⟩ | ⟨⟨failure, impossible⟩, _⟩)
    · obtain rfl : programs = loaded := same
      obtain ⟨rfl, rfl⟩ : patched = patchedBy image found.maps (relocationSections image) ∧
        marked = relocatedNumbers image := ended patched marked programs rfl
      have third := @runs_attachRemaining σ middle kernel attacher (relocatedNumbers image)
        (patchedBy image found.maps (relocationSections image)).sections programs
      rw [filterMap_remaining?_patchedBy] at third
      refine Runs.bind third ?_ ?_
      · intro failure calls after stopped
        left
        rw [attempts, List.map_append]
        exact groups.append stopped
      · rintro all calls after ⟨others, rfl, more⟩
        refine Runs.still (still_note _ _) fun _ => Runs.pure ⟨rfl, ?_⟩
        rw [List.append_nil, attempts, List.map_append]
        exact groups.append more
    · cases impossible

/-! ## The whole load -/

/-- Giving up what a failed load holds makes no calls, and changes no result. -/
theorem loadImage_eq (kernel : Kernel σ) (tracefs : Tracefs) (image : Elf.Image)
    (session : Session σ) :
    (loadImage kernel tracefs image session).1 = (passes kernel tracefs image session).1 ∧
      (loadImage kernel tracefs image session).2.calls =
        (passes kernel tracefs image session).2.calls := by
  unfold loadImage
  split
  · next loaded after equation => rw [equation]; exact ⟨rfl, rfl⟩
  · next failure after equation => rw [equation]; exact ⟨rfl, rfl⟩

/-- What a failed load gives up changes no files. -/
theorem files_loadImage (kernel : Kernel σ) (tracefs : Tracefs) (image : Elf.Image)
    (session : Session σ) :
    (loadImage kernel tracefs image session).2.files =
      (passes kernel tracefs image session).2.files := by
  unfold loadImage
  split
  · next loaded after equation => rw [equation]
  · next failure after equation => rw [equation]; rfl

theorem runs_passes (kernel : Kernel σ) (tracefs : Tracefs) (image : Elf.Image) :
    Runs files (passes kernel tracefs image) (Course tracefs image files) := by
  refine Runs.bind (runs_prepare kernel tracefs image) ?_ ?_
  · rintro failure calls after ⟨rfl, handles, creates, cause⟩
    exact .unprepared creates cause
  · rintro found calls middle ⟨rfl, handles, creates, all, wellFormed, provisioned⟩
    obtain ⟨made, rfl⟩ := Option.isSome_iff_exists.mp all
    refine (runs_attachPrograms kernel tracefs image found).weaken ?_
    intro result more after attaches
    cases result with
    | ok loaded =>
      obtain ⟨rfl, groups⟩ := attaches
      exact .loaded creates wellFormed provisioned groups
    | error failure =>
      rcases attaches with groups |
        ⟨rfl, rfl, symbolless, relocation, member, target, found, program⟩
      · exact .stopped creates wellFormed provisioned groups
      · rw [List.append_nil]
        exact .symbolless creates wellFormed symbolless member found program

/-- Every load takes one of the courses. -/
theorem course_loadImage (kernel : Kernel σ) (tracefs : Tracefs) (image : Elf.Image)
    (session : Session σ) :
    let outcome := loadImage kernel tracefs image session
    ∃ calls, outcome.2.calls = session.calls ++ calls ∧
      Course tracefs image session.files outcome.1 calls outcome.2.files := by
  intro outcome
  obtain ⟨result, same⟩ := loadImage_eq kernel tracefs image session
  obtain ⟨calls, added, course⟩ := runs_passes kernel tracefs image session rfl
  refine ⟨calls, same.trans added, ?_⟩
  rw [show outcome.1 = _ from result,
    show outcome.2.files = _ from files_loadImage kernel tracefs image session]
  exact course

/-- A load creates maps and stops there, or it goes on with the programs that it attempts. -/
theorem Course.split {tracefs : Tracefs} {image : Elf.Image} {files after : Fs.Tree}
    {result : Except LoadError LoadedObject} {calls : List KernelCall}
    (course : Course tracefs image files result calls after) :
    ((∃ failure, result = .error failure) ∧ after = cleared tracefs files ∧
        ∃ handles, Creates (definedMaps image) calls handles) ∨
      ∃ mapCalls groupCalls handles, ∃ found : Metadata, ∃ ended, calls = mapCalls ++ groupCalls ∧
        Creates (definedMaps image) mapCalls (some handles) ∧
        Provisioned image mapCalls found.maps ∧
        Groups ⟨tracefs, found.license, found.kernelVersion⟩
          ((attempts image found.maps).map (·.submission image found.maps))
          (cleared tracefs files) groupCalls ended after ∧
        match result with
        | .ok object => found = ⟨object.license, object.kernelVersion, object.maps⟩ ∧
            ended = some object.programs
        | .error _ => ended = none := by
  cases course with
  | unprepared creates _ => exact .inl ⟨⟨_, rfl⟩, rfl, _, creates⟩
  | symbolless creates _ _ _ _ _ => exact .inl ⟨⟨_, rfl⟩, rfl, _, creates⟩
  | stopped creates _ provisioned groups =>
    exact .inr ⟨_, _, _, _, _, rfl, creates, provisioned, groups, rfl⟩
  | @loaded _ _ _ object _ creates _ provisioned groups =>
    exact .inr ⟨_, _, _, ⟨object.license, object.kernelVersion, object.maps⟩, _, rfl, creates,
      provisioned, groups, rfl, rfl⟩

/-! ## What a load has attempted -/

/-- An account of a load: what all its programs share, the maps that their references were resolved
with, the programs that were submitted, those of them that the kernel has accepted, and those of
these whose probes were registered. -/
structure Ledger where
  attacher : Attacher
  maps : Bpf.MapTable
  attempted : List Attempt
  accepted : List Attempt
  registered : List Attempt

/-- The account is the one of a load of this image that began with these files. -/
structure Ledger.Describes (ledger : Ledger) (image : Elf.Image) (files : Fs.Tree)
    (result : Except LoadError LoadedObject) (calls : List KernelCall) (after : Fs.Tree) :
    Prop where
  attemptedFirst : ledger.attempted <+: attempts image ledger.maps
  acceptedFirst : ledger.accepted <+: ledger.attempted
  registeredFirst : ledger.registered <+: ledger.accepted
  submissions_eq : submissions calls =
    ledger.attempted.map (·.request image ledger.maps ledger.attacher)
  granted_eq : (granted calls).map (·.1) =
    ledger.accepted.map (·.request image ledger.maps ledger.attacher)
  registerAll_eq : ledger.attacher.registerAll (ledger.registered.map (·.category))
    (cleared ledger.attacher.tracefs files) = .ok after
  provisioned : ledger.attempted ≠ [] →
    ∃ mapCalls groupCalls, calls = mapCalls ++ groupCalls ∧ Provisioned image mapCalls ledger.maps
  complete : ∀ loaded, result = .ok loaded →
    ledger.maps = loaded.maps ∧ ledger.registered = attempts image ledger.maps ∧
      loaded.programs.map (fun program => (program.sectionName, program.category)) =
        ledger.accepted.map fun attempt => (attempt.part.name, attempt.category)

section

variable {tracefs : Tracefs} {image : Elf.Image} {after : Fs.Tree}
  {mapCalls groupCalls : List KernelCall} {handles : Option (List Handle)}

/-- The account of a load that creates maps only. -/
theorem describes_of_creates {failure : LoadError}
    (creates : Creates (definedMaps image) mapCalls handles) :
    Ledger.Describes ⟨⟨tracefs, "", 0⟩, .empty, [], [], []⟩ image files (.error failure) mapCalls
      (cleared tracefs files) where
  attemptedFirst := List.nil_prefix
  acceptedFirst := List.nil_prefix
  registeredFirst := List.nil_prefix
  submissions_eq := submissions_of_quiet creates.quiet
  granted_eq := by
    rw [granted_of_quiet creates.quiet]
    rfl
  registerAll_eq := rfl
  provisioned := fun impossible => absurd rfl impossible
  complete := fun _ impossible => by cases impossible

/-- Creating the maps submits nothing. -/
theorem submissions_of_creates (creates : Creates (definedMaps image) mapCalls handles) :
    submissions (mapCalls ++ groupCalls) = submissions groupCalls :=
  submissionsAfter_append_of_quiet none creates.quiet groupCalls

theorem granted_of_creates (creates : Creates (definedMaps image) mapCalls handles) :
    granted (mapCalls ++ groupCalls) = granted groupCalls := by
  rw [granted_append, granted_of_quiet creates.quiet, List.nil_append]

theorem exists_describes_of_stopped {failure : LoadError} {found : Metadata}
    (creates : Creates (definedMaps image) mapCalls handles)
    (provisioned : Provisioned image mapCalls found.maps)
    (groups : Groups ⟨tracefs, found.license, found.kernelVersion⟩
      ((attempts image found.maps).map (·.submission image found.maps)) (cleared tracefs files)
      groupCalls none after) :
    ∃ ledger : Ledger, ledger.Describes image files (.error failure) (mapCalls ++ groupCalls)
      after := by
  obtain ⟨_, _, _, third, second, first, submitted, grants, registers⟩ := groups.progress
  -- the programs of the plan are the ones of the attempts, and so are the first of them
  obtain ⟨attempted, attemptedFirst, rfl⟩ := List.prefix_map_iff.mp first
  obtain ⟨accepted, acceptedFirst, rfl⟩ := List.prefix_map_iff.mp second
  obtain ⟨registered, registeredFirst, rfl⟩ := List.prefix_map_iff.mp third
  exact ⟨⟨_, found.maps, attempted, accepted, registered⟩, {
    attemptedFirst
    acceptedFirst
    registeredFirst
    submissions_eq := by
      rw [submissions_of_creates creates, submitted, List.map_map]
      rfl
    granted_eq := by
      rw [granted_of_creates creates, grants, List.map_map]
      rfl
    registerAll_eq := by
      rw [List.map_map] at registers
      exact registers
    provisioned := fun _ => ⟨mapCalls, groupCalls, rfl, provisioned⟩
    complete := fun _ impossible => by cases impossible }⟩

theorem describes_of_loaded {loaded : LoadedObject}
    (creates : Creates (definedMaps image) mapCalls handles)
    (provisioned : Provisioned image mapCalls loaded.maps)
    (groups : Groups ⟨tracefs, loaded.license, loaded.kernelVersion⟩
      ((attempts image loaded.maps).map (·.submission image loaded.maps)) (cleared tracefs files)
      groupCalls (some loaded.programs) after) :
    Ledger.Describes ⟨⟨tracefs, loaded.license, loaded.kernelVersion⟩, loaded.maps,
        attempts image loaded.maps, attempts image loaded.maps, attempts image loaded.maps⟩
      image files (.ok loaded) (mapCalls ++ groupCalls) after where
  attemptedFirst := List.prefix_refl _
  acceptedFirst := List.prefix_refl _
  registeredFirst := List.prefix_refl _
  submissions_eq := by
    rw [submissions_of_creates creates, groups.loads.submissions_eq, List.map_map]
    rfl
  granted_eq := by
    rw [granted_of_creates creates, groups.loads.requests, List.map_map]
    rfl
  registerAll_eq := by
    have registers := groups.registerAll_eq
    rw [List.map_map] at registers
    exact registers
  provisioned := fun _ => ⟨mapCalls, groupCalls, rfl, provisioned⟩
  complete := by
    intro object ended
    obtain rfl := Except.ok.inj ended
    refine ⟨rfl, rfl, ?_⟩
    rw [groups.loads.names, List.map_map]
    rfl

end

/-- There is an account of every load. -/
theorem exists_ledger (kernel : Kernel σ) (tracefs : Tracefs) (image : Elf.Image)
    (session : Session σ) :
    let outcome := loadImage kernel tracefs image session
    ∃ calls, ∃ ledger : Ledger, outcome.2.calls = session.calls ++ calls ∧
      ledger.Describes image session.files outcome.1 calls outcome.2.files := by
  intro outcome
  obtain ⟨calls, added, course⟩ := course_loadImage kernel tracefs image session
  refine ⟨calls, ?_⟩
  generalize outcome.1 = result, outcome.2.files = after at course ⊢
  rcases course.split with ⟨⟨failure, rfl⟩, rfl, handles, creates⟩ |
    ⟨mapCalls, groupCalls, handles, found, ended, rfl, creates, provisioned, groups, ends⟩
  · exact ⟨_, added, describes_of_creates creates⟩
  cases result with
  | error failure =>
    obtain rfl : ended = none := ends
    obtain ⟨ledger, describes⟩ := exists_describes_of_stopped creates provisioned groups
    exact ⟨ledger, added, describes⟩
  | ok loaded =>
    obtain ⟨rfl, rfl⟩ := ends
    exact ⟨_, added, describes_of_loaded creates provisioned groups⟩

/-! ## The calls of a load -/

/-- The calls of a load, whatever the image, the kernel and the tracing directory.

- First the maps are created, one for each definition, in their order. Then there is one group for
  each program that is attempted, and the requests of all groups share one license and one version.
- A load that ends well has created all maps and attached all programs, with its own license and
  version. No call has failed, but for programs that lacked permission and were tried once more.
- Otherwise the last call may have failed too. If there are groups, the maps were all created,
  and one of the groups failed: a call in it, or the registration of its probe, or the number of its
  event. Nothing comes behind that.

That the registered probes cannot be cleared is no such failure: the load then begins with the files
as they are (`cleared`). -/
theorem calls_loadImage (kernel : Kernel σ) (tracefs : Tracefs) (image : Elf.Image)
    (session : Session σ) :
    let outcome := loadImage kernel tracefs image session
    ∃ mapCalls groupCalls handles attacher plan ended,
      outcome.2.calls = session.calls ++ (mapCalls ++ groupCalls) ∧
      Creates (definedMaps image) mapCalls handles ∧
      Groups attacher plan (cleared tracefs session.files) groupCalls ended outcome.2.files ∧
      attacher.tracefs = tracefs ∧
      (∀ request answer, .loadProgram request answer ∈ mapCalls ++ groupCalls →
        request.license = attacher.license ∧ request.kernelVersion = attacher.kernelVersion) ∧
      match outcome.1 with
      | .ok loaded =>
        handles.isSome ∧ ended = some loaded.programs ∧
          plan = (attempts image loaded.maps).map (·.submission image loaded.maps) ∧
            attacher.license = loaded.license ∧ attacher.kernelVersion = loaded.kernelVersion ∧
              Untroubled (mapCalls ++ groupCalls)
      | .error _ =>
        StopsAtFailure (mapCalls ++ groupCalls) ∧
          (groupCalls = [] ∨ handles.isSome ∧ ended = none ∧ ∃ maps,
            Provisioned image mapCalls maps ∧
              plan = (attempts image maps).map (·.submission image maps)) := by
  intro outcome
  obtain ⟨calls, added, course⟩ := course_loadImage kernel tracefs image session
  have uniform {mapCalls groupCalls : List KernelCall} {handles : Option (List Handle)}
      {attacher : Attacher} {plan : List Submission} {ended : Option (List LoadedProgram)}
      {before after : Fs.Tree} (creates : Creates (definedMaps image) mapCalls handles)
      (groups : Groups attacher plan before groupCalls ended after) :
      ∀ request answer, .loadProgram request answer ∈ mapCalls ++ groupCalls →
        request.license = attacher.license ∧ request.kernelVersion = attacher.kernelVersion := by
    intro request answer member
    rcases List.mem_append.mp member with early | late
    · exact absurd rfl (creates.quiet _ early)
    · obtain ⟨submission, _, rfl⟩ := groups.request_eq late
      exact ⟨rfl, rfl⟩
  generalize outcome.1 = result, outcome.2.files = after at course ⊢
  rcases course.split with ⟨⟨failure, rfl⟩, rfl, handles, creates⟩ |
    ⟨mapCalls, groupCalls, handles, found, ended, rfl, creates, provisioned, groups, ends⟩
  · have nothing : Groups ⟨tracefs, "", 0⟩ [] (cleared tracefs session.files) [] (some [])
        (cleared tracefs session.files) := .done
    have only : calls ++ [] = calls := List.append_nil calls
    exact ⟨calls, [], handles, _, _, _, only.symm ▸ added, creates, nothing, rfl,
      uniform creates nothing, only.symm ▸ creates.orderly.stops, .inl rfl⟩
  · cases result with
    | error failure =>
      obtain rfl : ended = none := ends
      exact ⟨_, _, _, _, _, _, added, creates, groups, rfl, uniform creates groups,
        Untroubled.append_stops creates.orderly groups.orderly,
        .inr ⟨rfl, rfl, found.maps, provisioned, rfl⟩⟩
    | ok loaded =>
      obtain ⟨rfl, rfl⟩ := ends
      exact ⟨_, _, _, _, _, _, added, creates, groups, rfl, uniform creates groups, rfl, rfl, rfl,
        rfl, rfl, Untroubled.append creates.orderly groups.orderly⟩

/-! ### A load that cannot clear the registered probes -/

/-- A kernel that accepts everything and counts what it opens. -/
def willingKernel : Kernel Nat where
  createMap _ count := (.ok ⟨.ofNat count⟩, count + 1)
  loadProgram _ count := (.ok ⟨.ofNat count⟩, count + 1)
  raiseMemoryLimit count := (.ok (), count)
  openEvent _ count := (.ok ⟨.ofNat count⟩, count + 1)
  enableEvent _ count := (.ok (), count)
  attachProgram _ _ count := (.ok (), count)
  closeEvent _ _ count := ((), count)

/-- An instruction that loads a 64-bit constant. -/
def loadInstruction : Bytes := Bpf.loadConstant :: List.replicate 15 0

/-- An instruction that ends a program. -/
def exitInstruction : Bytes := 0x95 :: List.replicate 7 0

/-- An image with one program that needs no probe. -/
def xdpImage : Elf.Image where
  order := .little
  slots := [none, some ⟨1, "xdp", 1, 0, exitInstruction, []⟩]
  symbols := none
  numbered := by
    intro number part found
    rcases number with _ | _ | number <;> simp at found
    rw [← found]

/-- There is no tracing directory, so the registered probes cannot be cleared, and the load goes on
and ends well. -/
theorem loadImage_uncleared :
    (∃ failure, Tracefs.clearKprobes ⟨"/tracing"⟩ .scratch = .error failure) ∧
      ∃ loaded, (loadImage willingKernel ⟨"/tracing"⟩ xdpImage (.start 0 .scratch)).1 =
        .ok loaded := by
  constructor
  · exact ⟨.system .noEntry, by decide +kernel⟩
  · have ends : (loadImage willingKernel ⟨"/tracing"⟩ xdpImage
        (.start 0 .scratch)).1.toOption.isSome := by decide +kernel
    cases result : (loadImage willingKernel ⟨"/tracing"⟩ xdpImage (.start 0 .scratch)).1 with
    | error failure =>
      rw [result] at ends
      cases ends
    | ok loaded => exact ⟨loaded, rfl⟩

end Load

end ProbeStream
