import ProbeStream.Proofs.Fs.Files
import ProbeStream.Proofs.Load.Course

/-!
# The registered probes

The file `kprobe_events` lists the registered probes. A load empties it at its beginning, and from
then on it agrees with the calls to the kernel: each probe whose program was accepted has one entry,
in the order of the calls, and there is nothing else in it (`read_kprobeEvents_loadImage`). That
holds however the load ends, because

- a program is registered as soon as it is accepted, before anything else can fail, and
- a probe can be registered whenever the list is a file (`exists_registered`).

One group of calls keeps the agreement (`Group.read_kprobeEvents`), and so do all groups of a load
(`Groups.read_kprobeEvents`).
-/

namespace ProbeStream

/-! ## Entries -/

/-- The entry of a program in the list of registered probes, by the name of its section. Only
programs that run when a function is entered or left have one. -/
def probeEntry (name : String) : String :=
  match Text.afterLead? "kprobe/" name with
  | some symbol => s!"p:p{symbol} {symbol}\n"
  | none =>
    match Text.afterLead? "kretprobe/" name with
    | some symbol => s!"r:r{symbol} {symbol}\n"
    | none => ""

/-- The entries of the programs that some calls had accepted. -/
def probeEntries (calls : List KernelCall) : Bytes :=
  (granted calls).flatMap fun accepted => Utf8.encode (probeEntry accepted.1.sectionName)

theorem probeEntries_append (before after : List KernelCall) :
    probeEntries (before ++ after) = probeEntries before ++ probeEntries after := by
  rw [probeEntries, granted_append, List.flatMap_append, probeEntries, probeEntries]

theorem probeEntries_of_quiet {calls : List KernelCall} (quiet : ∀ call ∈ calls, ¬ call.isLoad) :
    probeEntries calls = [] := by
  rw [probeEntries, granted_of_quiet quiet, List.flatMap_nil]

/-- What is written when the probe of a category is registered. -/
def Bpf.Category.registration : Bpf.Category → String
  | .kprobe symbol => Tracefs.registration .entry symbol
  | .kretprobe symbol => Tracefs.registration .exit symbol
  | _ => ""

theorem probeEntry_eq_registration {name : String} {category : Bpf.Category}
    (named : Bpf.Category.ofSectionName name = .ok category) :
    probeEntry name = category.registration := by
  obtain ⟨kind, rest, rfl, given⟩ := Bpf.Category.exists_lead_of_ofSectionName named
  -- of the leads of probes the name has its own, if any
  have kprobe (other : kind ≠ .kprobe) : Text.afterLead? "kprobe/" (kind.lead ++ rest) = none :=
    Bpf.Category.Kind.afterLead?_of_ne other rest
  have kretprobe (other : kind ≠ .kretprobe) :
      Text.afterLead? "kretprobe/" (kind.lead ++ rest) = none :=
    Bpf.Category.Kind.afterLead?_of_ne other rest
  rw [probeEntry]
  cases kind with
  | kprobe =>
    obtain ⟨-, rfl⟩ := Bpf.Category.ofTarget_eq_ok_iff.mp given
    rw [Bpf.Category.Kind.lead, Text.afterLead?_append]
    rfl
  | kretprobe =>
    obtain ⟨-, rfl⟩ := Bpf.Category.ofTarget_eq_ok_iff.mp given
    rw [kprobe nofun, Bpf.Category.Kind.lead, Text.afterLead?_append]
    rfl
  | tracepoint =>
    obtain ⟨-, rfl⟩ := Bpf.Category.ofTarget_eq_ok_iff.mp given
    rw [kprobe nofun, kretprobe nofun]
    rfl
  | xdp | perfEvent | socketFilter =>
    obtain rfl := Except.ok.inj given
    rw [kprobe nofun, kretprobe nofun]
    rfl

/-! ## Registering -/

namespace Attacher

variable {attacher : Attacher} {category : Bpf.Category} {files after : Fs.Tree}
  {content : Bytes}

/-- A probe can be registered if the list is there. -/
theorem exists_registered (list : files.read attacher.tracefs.kprobeEvents = .ok content)
    (category : Bpf.Category) : ∃ after, attacher.registered category files = .ok after := by
  cases category with
  | kprobe symbol => exact Fs.Tree.exists_append list _
  | kretprobe symbol => exact Fs.Tree.exists_append list _
  | _ => exact ⟨files, rfl⟩

theorem read_registered (registered : attacher.registered category files = .ok after)
    (list : files.read attacher.tracefs.kprobeEvents = .ok content) :
    after.read attacher.tracefs.kprobeEvents =
      .ok (content ++ Utf8.encode category.registration) := by
  have nothing {other : Bpf.Category} (none : other.registration = "")
      (same : Except.ok files = (Except.ok after : Except IoError Fs.Tree)) :
      after.read attacher.tracefs.kprobeEvents =
        .ok (content ++ Utf8.encode other.registration) := by
    cases same
    rw [none, list]
    exact congrArg Except.ok (List.append_nil content).symm
  cases category with
  | kprobe symbol => exact Fs.Tree.read_append registered list
  | kretprobe symbol => exact Fs.Tree.read_append registered list
  | _ => exact nothing rfl registered

end Attacher

section

variable {attacher : Attacher} {submission : Submission} {plan : List Submission}
  {files after : Fs.Tree} {calls : List KernelCall} {content : Bytes}

/-- A group adds the entry of its program if the kernel accepts it, even if the group then fails. -/
theorem Group.read_kprobeEvents {program : Option LoadedProgram}
    (group : Group attacher submission files calls program after)
    (named : Bpf.Category.ofSectionName submission.name = .ok submission.category)
    (list : files.read attacher.tracefs.kprobeEvents = .ok content) :
    after.read attacher.tracefs.kprobeEvents = .ok (content ++ probeEntries calls) := by
  have accepted {own : List KernelCall} {handle : Handle} {changed : Fs.Tree}
      (submits : Submits (submission.request attacher) own (some handle))
      (registered : attacher.registered submission.category files = .ok changed) :
      changed.read attacher.tracefs.kprobeEvents = .ok (content ++ probeEntries own) := by
    have entries : probeEntries own = Utf8.encode (probeEntry submission.name) := by
      rw [probeEntries, submits.granted_eq]
      exact List.append_nil _
    rw [entries, probeEntry_eq_registration named]
    exact Attacher.read_registered registered list
  cases group with
  | refused submits =>
    rw [probeEntries, submits.granted_eq, list]
    exact congrArg Except.ok (List.append_nil content).symm
  | alone submits noFile =>
    exact accepted submits (Attacher.registered_of_idFile?_eq_none noFile)
  | unregistered submits failed =>
    obtain ⟨changed, registered⟩ := Attacher.exists_registered list submission.category
    rw [registered] at failed
    cases failed
  | unnumbered submits registered _ _ => exact accepted submits registered
  | numbered submits registered _ _ hooksUp =>
    rw [probeEntries_append, probeEntries_of_quiet hooksUp.quiet, List.append_nil]
    exact accepted submits registered

theorem Groups.read_kprobeEvents {programs : Option (List LoadedProgram)}
    (groups : Groups attacher plan files calls programs after)
    (named : ∀ submission ∈ plan,
      Bpf.Category.ofSectionName submission.name = .ok submission.category)
    (list : files.read attacher.tracefs.kprobeEvents = .ok content) :
    after.read attacher.tracefs.kprobeEvents = .ok (content ++ probeEntries calls) := by
  induction groups generalizing content with
  | done => rw [list, probeEntries_of_quiet (by simp), List.append_nil]
  | stopped group => exact group.read_kprobeEvents (named _ List.mem_cons_self) list
  | attached group _ ih =>
    rw [probeEntries_append, ← List.append_assoc]
    exact ih (fun submission member => named submission (List.mem_cons_of_mem _ member))
      (group.read_kprobeEvents (named _ List.mem_cons_self) list)

end

namespace Load

variable {σ : Type}

/-- A list that can be written is empty once it is cleared. -/
theorem read_cleared {tracefs : Tracefs} {files : Fs.Tree}
    (writable : files.IsWritable tracefs.kprobeEvents) :
    (cleared tracefs files).read tracefs.kprobeEvents = .ok [] := by
  obtain ⟨changed, written⟩ := Fs.Tree.exists_write_iff.mpr writable
  rw [cleared, Tracefs.clearKprobes, written]
  exact Fs.Tree.read_write written

/-- The list of registered probes after a load, if it is a file or can become one: it holds the
entries of the programs that the kernel has accepted in this load, in their order, and nothing else,
whatever was in it before and however the load ends. -/
theorem read_kprobeEvents_loadImage (kernel : Kernel σ) (tracefs : Tracefs) (image : Elf.Image)
    (session : Session σ) (writable : session.files.IsWritable tracefs.kprobeEvents) :
    let outcome := loadImage kernel tracefs image session
    ∃ calls, outcome.2.calls = session.calls ++ calls ∧
      outcome.2.files.read tracefs.kprobeEvents = .ok (probeEntries calls) := by
  intro outcome
  obtain ⟨calls, added, course⟩ := course_loadImage kernel tracefs image session
  refine ⟨calls, added, ?_⟩
  have empty := read_cleared writable
  rcases course.split with ⟨_, after, handles, creates⟩ |
    ⟨mapCalls, groupCalls, handles, found, ended, rfl, creates, _, groups, _⟩
  · rw [show outcome.2.files = _ from after, empty, probeEntries_of_quiet creates.quiet]
  · rw [probeEntries_append, probeEntries_of_quiet creates.quiet]
    refine groups.read_kprobeEvents ?_ empty
    intro submission planned
    obtain ⟨attempt, member, rfl⟩ := List.mem_map.mp planned
    exact (mem_attempts member).2.1

/-! ## A load that fails behind its last entry -/

/-- Section 1 runs when a function is left, section 2 at a tracepoint, section 3 has no function,
and section 4 runs when a function is entered. -/
def probesImage : Elf.Image where
  order := .little
  slots := [none,
    some ⟨1, "kretprobe/accept", 1, 0, exitInstruction, []⟩,
    some ⟨2, "tracepoint/sock/state", 1, 0, exitInstruction, []⟩,
    some ⟨3, "kprobe/", 1, 0, exitInstruction, []⟩,
    some ⟨4, "kprobe/close", 1, 0, exitInstruction, []⟩]
  symbols := none
  numbered := by
    intro number part found
    rcases number with _ | _ | _ | _ | _ | number <;> simp at found <;> simp [← found]

/-- A tracing directory in which a probe is registered from before, and the event of section 4 has
no number. -/
def staleFiles : Fs.Tree :=
  ((Fs.Tree.scratch.plantFile "/tracing/kprobe_events" (Utf8.encode "p:pold old\n")).plantFile
      "/tracing/events/kprobes/raccept/id" (Utf8.encode "77\n")).plantFile
    "/tracing/events/sock/state/id" (Utf8.encode "8\n")

/-- The load fails, since an event has no number. By then all three programs were accepted, and the
list has the entries of the two probes. -/
theorem read_kprobeEvents_loadImage_stale :
    staleFiles.IsWritable (Tracefs.kprobeEvents ⟨"/tracing"⟩) ∧
      let outcome := loadImage willingKernel ⟨"/tracing"⟩ probesImage (.start 0 staleFiles)
      (outcome.1.toOption = none ∧ outcome.2.calls.countP (·.isLoad) = 3 ∧
        probeEntries outcome.2.calls = Utf8.encode "r:raccept accept\np:pclose close\n") ∧
      outcome.2.files.read (Tracefs.kprobeEvents ⟨"/tracing"⟩) =
        .ok (probeEntries outcome.2.calls) := by
  have writable : staleFiles.IsWritable (Tracefs.kprobeEvents ⟨"/tracing"⟩) :=
    ⟨["tracing", "kprobe_events"], _, by decide +kernel, .file (Utf8.encode "p:pold old\n")⟩
  obtain ⟨calls, added, list⟩ :=
    read_kprobeEvents_loadImage willingKernel ⟨"/tracing"⟩ probesImage (.start 0 staleFiles)
      writable
  refine ⟨writable, by decide +kernel, ?_⟩
  rw [list, added]
  rfl

end Load

end ProbeStream
