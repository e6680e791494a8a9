import ProbeStream.Proofs.Load.Calls
import ProbeStream.Proofs.Load.Submissions

/-!
# The protocol of kernel calls

Which calls a load may make, and in which order, is said here without the load:

- `Creates definitions`: one map after the other, up to the first refusal;
- `Submits request`: a program is submitted, and once more, with the same request, if it was
  refused for want of permission and the memory limit could be raised;
- `HooksUp id program`: an event is opened and enabled and told to run the program, up to the first
  failure;
- `Group submission`: a program is submitted; if that ends well and its category has an event, a
  probe is registered, the event's number is read, and the program is hooked up to it;
- `Groups plan`: one group after the other, up to the first one that fails.

Each of them also says what comes out, and that is nothing exactly if something failed. So nothing
happens behind a failure, but for the retry of a program that lacked permission
(`StopsAtFailure`).

The steps of `Attacher.attach` keep to the protocol of one group (`Attacher.runs_attach`).
-/

namespace ProbeStream

/-! ## The words of the protocol -/

/-- The calls that create maps, and their handles if all of them were created. -/
inductive Creates : List Bpf.MapDefinition → List KernelCall → Option (List Handle) → Prop
  | done : Creates [] [] (some [])
  | refused {definition : Bpf.MapDefinition} {rest : List Bpf.MapDefinition} (failure : IoError) :
      Creates (definition :: rest) [.createMap definition (.error failure)] none
  | created {definition : Bpf.MapDefinition} {rest : List Bpf.MapDefinition} (handle : Handle)
      {calls : List KernelCall} {handles : Option (List Handle)} : Creates rest calls handles →
      Creates (definition :: rest) (.createMap definition (.ok handle) :: calls)
        (handles.map (handle :: ·))

/-- The calls that submit a program, and its handle if it was accepted. -/
inductive Submits (request : ProgramRequest) : List KernelCall → Option Handle → Prop
  | accepted (handle : Handle) :
      Submits request [.loadProgram request (.ok handle)] (some handle)
  | refused {refusal : ProgramRefusal} : ¬ refusal.isPermissionDenied →
      Submits request [.loadProgram request (.error refusal)] none
  | limited {refusal : ProgramRefusal} (failure : IoError) : refusal.isPermissionDenied →
      Submits request
        [.loadProgram request (.error refusal), .raiseMemoryLimit (.error failure)] none
  | retried {refusal : ProgramRefusal} (answer : Except ProgramRefusal Handle) :
      refusal.isPermissionDenied →
      Submits request
        [.loadProgram request (.error refusal), .raiseMemoryLimit (.ok ()),
          .loadProgram request answer] answer.toOption

/-- The calls that let the event of a number run a program, and the event if it does. -/
inductive HooksUp (id : UInt64) (program : Handle) : List KernelCall → Option Handle → Prop
  | closed (failure : IoError) : HooksUp id program [.openEvent id (.error failure)] none
  | disabled (event : Handle) (failure : IoError) :
      HooksUp id program [.openEvent id (.ok event), .enableEvent event (.error failure)] none
  | enabled (event : Handle) (answer : Except IoError Unit) :
      HooksUp id program
        [.openEvent id (.ok event), .enableEvent event (.ok ()),
          .attachProgram event program answer] (answer.toOption.map fun _ => event)

namespace Attacher

/-- The files once the probe of a category is registered, if the category is one of a probe. -/
def registered (attacher : Attacher) (category : Bpf.Category) (files : Fs.Tree) :
    Except IoError Fs.Tree :=
  match category with
  | .kprobe symbol => attacher.tracefs.registerProbe .entry symbol files
  | .kretprobe symbol => attacher.tracefs.registerProbe .exit symbol files
  | _ => .ok files

/-- The file with the number of a category's event. -/
def idFile? (attacher : Attacher) : Bpf.Category → Option String
  | .kprobe symbol => some (attacher.tracefs.probeIdPath .entry symbol)
  | .kretprobe symbol => some (attacher.tracefs.probeIdPath .exit symbol)
  | .tracepoint path => some (attacher.tracefs.tracepointIdPath path)
  | _ => none

/-- Without an event there is nothing to register. -/
theorem registered_of_idFile?_eq_none {attacher : Attacher} {category : Bpf.Category}
    {files : Fs.Tree} (alone : attacher.idFile? category = none) :
    attacher.registered category files = .ok files := by
  cases category with
  | kprobe _ => cases alone
  | kretprobe _ => cases alone
  | _ => rfl

/-- The files once the probes of several categories are registered. -/
def registerAll (attacher : Attacher) (categories : List Bpf.Category) (files : Fs.Tree) :
    Except IoError Fs.Tree :=
  categories.foldlM (fun files category => attacher.registered category files) files

end Attacher

/-- The calls for one program, beginning with some files, what became of the program if all went
well, and the files that are left. -/
inductive Group (attacher : Attacher) (submission : Submission) (files : Fs.Tree) :
    List KernelCall → Option LoadedProgram → Fs.Tree → Prop
  | refused {calls : List KernelCall} : Submits (submission.request attacher) calls none →
      Group attacher submission files calls none files
  | alone {calls : List KernelCall} {program : Handle} :
      Submits (submission.request attacher) calls (some program) →
      attacher.idFile? submission.category = none →
      Group attacher submission files calls
        (some ⟨submission.name, submission.category, program, none⟩) files
  | unregistered {calls : List KernelCall} {program : Handle} {failure : IoError} :
      Submits (submission.request attacher) calls (some program) →
      attacher.registered submission.category files = .error failure →
      Group attacher submission files calls none files
  | unnumbered {calls : List KernelCall} {program : Handle} {changed : Fs.Tree} {path : String}
      {fault : Tracefs.EventIdFault} :
      Submits (submission.request attacher) calls (some program) →
      attacher.registered submission.category files = .ok changed →
      attacher.idFile? submission.category = some path →
      Tracefs.readEventId changed path = .error fault →
      Group attacher submission files calls none changed
  | numbered {calls more : List KernelCall} {program : Handle} {changed : Fs.Tree} {path : String}
      {id : UInt64} {event : Option Handle} :
      Submits (submission.request attacher) calls (some program) →
      attacher.registered submission.category files = .ok changed →
      attacher.idFile? submission.category = some path →
      Tracefs.readEventId changed path = .ok id →
      HooksUp id program more event →
      Group attacher submission files (calls ++ more)
        (event.map fun event => ⟨submission.name, submission.category, program, some event⟩) changed

/-- The calls for several programs, what became of them if all went well, and the files that are
left. -/
inductive Groups (attacher : Attacher) : List Submission → Fs.Tree → List KernelCall →
    Option (List LoadedProgram) → Fs.Tree → Prop
  | done {files : Fs.Tree} : Groups attacher [] files [] (some []) files
  | stopped {submission : Submission} {rest : List Submission} {files after : Fs.Tree}
      {calls : List KernelCall} : Group attacher submission files calls none after →
      Groups attacher (submission :: rest) files calls none after
  | attached {submission : Submission} {rest : List Submission} {files middle after : Fs.Tree}
      {calls more : List KernelCall} {program : LoadedProgram}
      {programs : Option (List LoadedProgram)} :
      Group attacher submission files calls (some program) middle →
      Groups attacher rest middle more programs after →
      Groups attacher (submission :: rest) files (calls ++ more) (programs.map (program :: ·)) after

/-! ## Nothing behind a failure -/

/-- Whether a call failed. -/
def KernelCall.failed : KernelCall → Bool
  | .createMap _ (.error _) => true
  | .loadProgram _ (.error _) => true
  | .raiseMemoryLimit (.error _) => true
  | .openEvent _ (.error _) => true
  | .enableEvent _ (.error _) => true
  | .attachProgram _ _ (.error _) => true
  | _ => false

/-- A program was refused for want of permission, and the next call is to raise the limit. -/
inductive Retried : KernelCall → List KernelCall → Prop
  | intro {request : ProgramRequest} {refusal : ProgramRefusal} {answer : Except IoError Unit}
      {rest : List KernelCall} : refusal.isPermissionDenied →
      Retried (.loadProgram request (.error refusal)) (.raiseMemoryLimit answer :: rest)

/-- No call failed, but for programs that were refused and retried. -/
def Untroubled : List KernelCall → Prop
  | [] => True
  | call :: rest => (call.failed → Retried call rest) ∧ Untroubled rest

/-- Of the calls only the last one failed, but for programs that were refused and retried. -/
def StopsAtFailure : List KernelCall → Prop
  | [] => True
  | call :: rest => (call.failed → rest = [] ∨ Retried call rest) ∧ StopsAtFailure rest

/-- What calls may look like when something came out of them, and when nothing did. -/
def Orderly {α : Type} (calls : List KernelCall) (outcome : Option α) : Prop :=
  if outcome.isSome then Untroubled calls else StopsAtFailure calls

theorem Retried.append {call : KernelCall} {rest : List KernelCall} (retried : Retried call rest)
    (more : List KernelCall) : Retried call (rest ++ more) := by
  cases retried with
  | intro denied => exact .intro denied

theorem Untroubled.append {calls more : List KernelCall} (untroubled : Untroubled calls)
    (follows : Untroubled more) : Untroubled (calls ++ more) := by
  induction calls with
  | nil => exact follows
  | cons call rest ih =>
    exact ⟨fun failed => (untroubled.1 failed).append more, ih untroubled.2⟩

theorem Untroubled.append_stops {calls more : List KernelCall} (untroubled : Untroubled calls)
    (follows : StopsAtFailure more) : StopsAtFailure (calls ++ more) := by
  induction calls with
  | nil => exact follows
  | cons call rest ih =>
    exact ⟨fun failed => .inr ((untroubled.1 failed).append more), ih untroubled.2⟩

theorem Untroubled.stops {calls : List KernelCall} (untroubled : Untroubled calls) :
    StopsAtFailure calls := by
  have whole : StopsAtFailure (calls ++ []) := untroubled.append_stops trivial
  rwa [List.append_nil] at whole

namespace Orderly

variable {α β : Type} {calls more : List KernelCall} {outcome : Option α}

theorem stops (orderly : Orderly calls outcome) : StopsAtFailure calls := by
  cases outcome with
  | none => exact orderly
  | some value => exact Untroubled.stops orderly

theorem append {before : List KernelCall} (orderly : Orderly calls outcome)
    (untroubled : Untroubled before) : Orderly (before ++ calls) outcome := by
  cases outcome with
  | none => exact untroubled.append_stops orderly
  | some value => exact untroubled.append orderly

theorem map (orderly : Orderly calls outcome) (view : α → β) :
    Orderly calls (outcome.map view) := by
  cases outcome <;> exact orderly

end Orderly

theorem Creates.orderly {definitions : List Bpf.MapDefinition} {calls : List KernelCall}
    {handles : Option (List Handle)} (creates : Creates definitions calls handles) :
    Orderly calls handles := by
  induction creates with
  | done => exact trivial
  | refused failure => simp [Orderly, StopsAtFailure]
  | @created definition _ handle _ _ _ ih =>
    have first : Untroubled [.createMap definition (.ok handle)] := by
      simp [Untroubled, KernelCall.failed]
    exact (ih.append first).map _

theorem Submits.orderly {request : ProgramRequest} {calls : List KernelCall}
    {program : Option Handle} (submits : Submits request calls program) :
    Orderly calls program := by
  cases submits with
  | accepted handle => simp [Orderly, Untroubled, KernelCall.failed]
  | refused _ => simp [Orderly, StopsAtFailure]
  | limited failure denied => simp [Orderly, StopsAtFailure, Retried.intro denied]
  | retried answer denied =>
    cases answer <;> simp [Orderly, Untroubled, StopsAtFailure, KernelCall.failed, Except.toOption,
      Retried.intro denied]

theorem HooksUp.orderly {id : UInt64} {program : Handle} {calls : List KernelCall}
    {event : Option Handle} (hooksUp : HooksUp id program calls event) : Orderly calls event := by
  cases hooksUp with
  | closed failure => simp [Orderly, StopsAtFailure]
  | disabled event failure => simp [Orderly, StopsAtFailure, KernelCall.failed]
  | enabled event answer =>
    cases answer <;> simp [Orderly, Untroubled, StopsAtFailure, KernelCall.failed, Except.toOption]

theorem Group.orderly {attacher : Attacher} {submission : Submission} {files after : Fs.Tree}
    {calls : List KernelCall} {program : Option LoadedProgram}
    (group : Group attacher submission files calls program after) : Orderly calls program := by
  cases group with
  | refused submits => exact submits.orderly
  | alone submits _ => exact submits.orderly
  | unregistered submits _ => exact submits.orderly.stops
  | unnumbered submits _ _ _ => exact submits.orderly.stops
  | numbered submits _ _ _ hooksUp => exact (hooksUp.orderly.append submits.orderly).map _

theorem Groups.orderly {attacher : Attacher} {plan : List Submission} {files after : Fs.Tree}
    {calls : List KernelCall} {programs : Option (List LoadedProgram)}
    (groups : Groups attacher plan files calls programs after) : Orderly calls programs := by
  induction groups with
  | done => exact trivial
  | stopped group => exact group.orderly
  | attached group _ ih => exact (ih.append group.orderly).map _

/-! ## Several groups -/

namespace Groups

variable {attacher : Attacher} {plan others : List Submission} {files middle after : Fs.Tree}
  {calls more : List KernelCall} {programs : List LoadedProgram}
  {ended : Option (List LoadedProgram)}

/-- Groups that were all attached, and the groups behind them. -/
theorem append (first : Groups attacher plan files calls (some programs) middle)
    (second : Groups attacher others middle more ended after) :
    Groups attacher (plan ++ others) files (calls ++ more) (ended.map (programs ++ ·)) after := by
  generalize outcome : some programs = first' at first
  induction first generalizing programs with
  | done =>
    cases outcome
    simpa using second
  | stopped _ => cases outcome
  | attached group _ ih =>
    obtain ⟨tail, rfl, same⟩ := Option.map_eq_some_iff.mp outcome.symm
    have rest := attached group (ih second rfl)
    rw [Option.map_map] at rest
    rw [List.append_assoc, ← same]
    exact rest

/-- Groups that stop early stay within a longer plan. -/
theorem stop (groups : Groups attacher plan files calls none after) :
    Groups attacher (plan ++ others) files calls none after := by
  generalize outcome : none = ended at groups
  induction groups with
  | done => cases outcome
  | stopped group => exact .stopped group
  | attached group _ ih =>
    have ended := Option.map_eq_none_iff.mp outcome.symm
    subst ended
    exact .attached group (ih rfl)

end Groups

/-! ## Submitted and accepted programs -/

section

variable {attacher : Attacher} {submission : Submission} {request : ProgramRequest}
  {files after : Fs.Tree} {calls : List KernelCall}

theorem Creates.quiet {definitions : List Bpf.MapDefinition} {handles : Option (List Handle)}
    (creates : Creates definitions calls handles) : ∀ call ∈ calls, ¬ call.isLoad := by
  induction creates with
  | done => simp
  | refused failure => simp [KernelCall.isLoad]
  | created handle _ ih => exact List.forall_mem_cons.mpr ⟨Bool.false_ne_true, ih⟩

theorem HooksUp.quiet {id : UInt64} {program : Handle} {event : Option Handle}
    (hooksUp : HooksUp id program calls event) : ∀ call ∈ calls, ¬ call.isLoad := by
  cases hooksUp <;> simp [KernelCall.isLoad]

theorem Submits.submissions_append {program : Handle}
    (submits : Submits request calls (some program)) (rest : List KernelCall) :
    submissions (calls ++ rest) = request :: submissions rest := by
  generalize outcome : some program = ended at submits
  cases submits with
  | accepted handle => rfl
  | refused _ => cases outcome
  | limited _ _ => cases outcome
  | retried answer denied =>
    cases answer with
    | error refusal => cases outcome
    | ok handle => simp [submissions, submissionsAfter, repeatable, denied]

theorem Submits.submissions_eq {program : Option Handle} (submits : Submits request calls program) :
    submissions calls = [request] := by
  cases submits with
  | accepted handle => rfl
  | refused _ => simp [submissions, submissionsAfter]
  | limited _ denied => simp [submissions, submissionsAfter]
  | retried answer denied => simp [submissions, submissionsAfter, repeatable, denied]

theorem Submits.granted_eq {program : Option Handle} (submits : Submits request calls program) :
    granted calls = program.toList.map (request, ·) := by
  cases submits with
  | accepted handle => rfl
  | refused _ => rfl
  | limited _ _ => rfl
  | retried answer denied => cases answer <;> rfl

/-- A group submits its program and no other one. -/
theorem Group.submissions_eq {program : Option LoadedProgram}
    (group : Group attacher submission files calls program after) :
    submissions calls = [submission.request attacher] := by
  cases group with
  | refused submits => exact submits.submissions_eq
  | alone submits _ => exact submits.submissions_eq
  | unregistered submits _ => exact submits.submissions_eq
  | unnumbered submits _ _ _ => exact submits.submissions_eq
  | numbered submits _ _ _ hooksUp =>
    rw [submits.submissions_append, submissions_of_quiet hooksUp.quiet]

theorem Submits.request_eq {program : Option Handle} (submits : Submits request calls program)
    {other : ProgramRequest} {answer : Except ProgramRefusal Handle}
    (member : .loadProgram other answer ∈ calls) : other = request := by
  cases submits with
  | retried _ _ =>
    simp only [List.mem_cons, KernelCall.loadProgram.injEq, reduceCtorEq, List.not_mem_nil,
      or_false, false_or] at member
    exact member.elim And.left And.left
  | _ => simp_all

/-- Every request of a group is the one for its program. -/
theorem Group.request_eq {program : Option LoadedProgram}
    (group : Group attacher submission files calls program after) {other : ProgramRequest}
    {answer : Except ProgramRefusal Handle} (member : .loadProgram other answer ∈ calls) :
    other = submission.request attacher := by
  cases group with
  | refused submits => exact submits.request_eq member
  | alone submits _ => exact submits.request_eq member
  | unregistered submits _ => exact submits.request_eq member
  | unnumbered submits _ _ _ => exact submits.request_eq member
  | numbered submits _ _ _ hooksUp =>
    rcases List.mem_append.mp member with early | late
    · exact submits.request_eq early
    · exact absurd rfl (hooksUp.quiet _ late)

/-- What became of the program of a group that ended well. -/
theorem Group.loads {program : LoadedProgram}
    (group : Group attacher submission files calls (some program) after) :
    Loads attacher [submission] calls [program] := by
  have accepted {calls : List KernelCall} {handle : Handle} {event : Option Handle}
      (submits : Submits (submission.request attacher) calls (some handle)) :
      Loads attacher [submission] calls
        [⟨submission.name, submission.category, handle, event⟩] :=
    ⟨submits.submissions_append, by rw [submits.granted_eq]; rfl,
      by rw [submits.granted_eq]; rfl, rfl⟩
  generalize outcome : some program = ended at group
  cases group with
  | refused _ => cases outcome
  | alone submits _ =>
    cases outcome
    exact accepted submits
  | unregistered _ _ => cases outcome
  | unnumbered _ _ _ _ => cases outcome
  | numbered submits _ _ _ hooksUp =>
    obtain ⟨event, _, rfl⟩ := Option.map_eq_some_iff.mp outcome.symm
    exact (accepted submits).append (.nil hooksUp.quiet)

/-- A group that ended well has registered the probe of its program. -/
theorem Group.registered_eq {program : LoadedProgram}
    (group : Group attacher submission files calls (some program) after) :
    attacher.registered submission.category files = .ok after := by
  generalize outcome : some program = ended at group
  cases group with
  | refused _ => cases outcome
  | alone _ noFile => exact Attacher.registered_of_idFile?_eq_none noFile
  | unregistered _ _ => cases outcome
  | unnumbered _ _ _ _ => cases outcome
  | numbered _ registered _ _ _ => exact registered

/-- How far a group has come with its program. -/
theorem Group.progress {program : Option LoadedProgram}
    (group : Group attacher submission files calls program after) :
    ∃ accepted registered, registered <+: accepted ∧ accepted <+: [submission] ∧
      (granted calls).map (·.1) = accepted.map (·.request attacher) ∧
      attacher.registerAll (registered.map (·.category)) files = .ok after := by
  have one {after : Fs.Tree}
      (registered : attacher.registered submission.category files = .ok after) :
      attacher.registerAll ([submission].map (·.category)) files = .ok after := by
    simp [Attacher.registerAll, registered]
  cases group with
  | refused submits =>
    exact ⟨[], [], List.nil_prefix, List.nil_prefix, by rw [submits.granted_eq]; rfl, rfl⟩
  | alone submits noFile =>
    exact ⟨[submission], [submission], List.prefix_refl _, List.prefix_refl _,
      by rw [submits.granted_eq]; rfl, one (Attacher.registered_of_idFile?_eq_none noFile)⟩
  | unregistered submits _ =>
    exact ⟨[submission], [], List.nil_prefix, List.prefix_refl _,
      by rw [submits.granted_eq]; rfl, rfl⟩
  | unnumbered submits registered _ _ =>
    exact ⟨[submission], [submission], List.prefix_refl _, List.prefix_refl _,
      by rw [submits.granted_eq]; rfl, one registered⟩
  | numbered submits registered _ _ hooksUp =>
    refine ⟨[submission], [submission], List.prefix_refl _, List.prefix_refl _, ?_,
      one registered⟩
    rw [granted_append, granted_of_quiet hooksUp.quiet, List.append_nil, submits.granted_eq]
    rfl

variable {plan : List Submission}

theorem Groups.loads {programs : List LoadedProgram}
    (groups : Groups attacher plan files calls (some programs) after) :
    Loads attacher plan calls programs := by
  generalize outcome : some programs = ended at groups
  induction groups generalizing programs with
  | done =>
    cases outcome
    exact .nil (by simp)
  | stopped _ => cases outcome
  | attached group _ ih =>
    obtain ⟨tail, rfl, rfl⟩ := Option.map_eq_some_iff.mp outcome.symm
    exact group.loads.append (ih rfl)

theorem Groups.request_eq {ended : Option (List LoadedProgram)}
    (groups : Groups attacher plan files calls ended after) {request : ProgramRequest}
    {answer : Except ProgramRefusal Handle} (member : .loadProgram request answer ∈ calls) :
    ∃ submission ∈ plan, request = submission.request attacher := by
  induction groups with
  | done => cases member
  | stopped group => exact ⟨_, List.mem_cons_self, group.request_eq member⟩
  | attached group _ ih =>
    rcases List.mem_append.mp member with early | late
    · exact ⟨_, List.mem_cons_self, group.request_eq early⟩
    · obtain ⟨submission, present, same⟩ := ih late
      exact ⟨submission, List.mem_cons_of_mem _ present, same⟩

/-- Groups that were all attached have registered all probes. -/
theorem Groups.registerAll_eq {programs : List LoadedProgram}
    (groups : Groups attacher plan files calls (some programs) after) :
    attacher.registerAll (plan.map (·.category)) files = .ok after := by
  generalize outcome : some programs = ended at groups
  induction groups generalizing programs with
  | done => rfl
  | stopped _ => cases outcome
  | attached group _ ih =>
    obtain ⟨tail, rfl, _⟩ := Option.map_eq_some_iff.mp outcome.symm
    rw [List.map_cons, Attacher.registerAll, List.foldlM_cons, group.registered_eq]
    exact ih rfl

/-- How far groups have come with a plan: the programs that were submitted are the first of the
plan, the accepted ones are the first of these, and the ones with a registered probe of these. -/
theorem Groups.progress {ended : Option (List LoadedProgram)}
    (groups : Groups attacher plan files calls ended after) :
    ∃ attempted accepted registered, registered <+: accepted ∧ accepted <+: attempted ∧
      attempted <+: plan ∧ submissions calls = attempted.map (·.request attacher) ∧
      (granted calls).map (·.1) = accepted.map (·.request attacher) ∧
      attacher.registerAll (registered.map (·.category)) files = .ok after := by
  induction groups with
  | done =>
    exact ⟨[], [], [], List.prefix_refl _, List.prefix_refl _, List.prefix_refl _, rfl, rfl, rfl⟩
  | @stopped submission rest _ _ _ group =>
    obtain ⟨accepted, registered, first, second, grants, registers⟩ := group.progress
    exact ⟨[submission], accepted, registered, first, second, ⟨rest, rfl⟩, group.submissions_eq,
      grants, registers⟩
  | @attached submission _ _ _ _ _ _ _ _ group _ ih =>
    obtain ⟨attempted, accepted, registered, first, second, third, submitted, grants, registers⟩ :=
      ih
    refine ⟨submission :: attempted, submission :: accepted, submission :: registered,
      (List.prefix_cons_inj submission).mpr first, (List.prefix_cons_inj submission).mpr second,
      (List.prefix_cons_inj submission).mpr third, ?_, ?_, ?_⟩
    · rw [group.loads.submitted, submitted]
      rfl
    · rw [granted_append, List.map_append, group.loads.requests, grants]
      rfl
    · rw [List.map_cons, Attacher.registerAll, List.foldlM_cons, group.registered_eq]
      exact registers

end

/-! ## Attaching keeps to the protocol -/

namespace Attacher

open Load

variable {σ : Type} {files : Fs.Tree}

theorem runs_load (kernel : Kernel σ) (attacher : Attacher) (submission : Submission) :
    Runs files (attacher.load kernel submission.name submission.category submission.instructions)
      fun result calls after => after = files ∧
        Submits (submission.request attacher) calls result.toOption := by
  refine Runs.request fun answer => ?_
  cases answer with
  | ok handle => exact Runs.pure ⟨rfl, .accepted handle⟩
  | error refusal =>
    show Runs files (if refusal.isPermissionDenied then _ else _) _
    by_cases denied : refusal.isPermissionDenied
    · rw [if_pos denied]
      refine Runs.still (still_note _ _) fun _ => Runs.request fun raised => ?_
      cases raised with
      | error failure =>
        exact Runs.still (still_note _ _) fun _ => Runs.throw ⟨rfl, .limited failure denied⟩
      | ok _ =>
        refine Runs.request fun second => ?_
        cases second with
        | error refusal => exact Runs.throw ⟨rfl, .retried (.error refusal) denied⟩
        | ok handle => exact Runs.pure ⟨rfl, .retried (.ok handle) denied⟩
    · rw [if_neg denied]
      exact Runs.throw ⟨rfl, .refused denied⟩

/-- A probe is registered before it is said where its number will be. -/
theorem runs_eventIdPath (attacher : Attacher) (category : Bpf.Category) :
    Runs files (attacher.eventIdPath category : Load σ (Option String)) fun result calls after =>
      calls = [] ∧ match result with
        | .ok path => path = attacher.idFile? category ∧
            attacher.registered category files = .ok after
        | .error failure => after = files ∧ ∃ symbol cause, category.target? = some symbol ∧
            attacher.registered category files = .error cause ∧
              failure = .resource s!"failed to create kprobe '{symbol}'" cause := by
  have probe {kind : ProbeKind} {symbol : String} {category : Bpf.Category}
      (target : category.target? = some symbol)
      (idFile : attacher.idFile? category = some (attacher.tracefs.probeIdPath kind symbol))
      (registers : attacher.registered category = attacher.tracefs.registerProbe kind symbol) :
      Runs files (some <$> attacher.registerProbe kind symbol : Load σ (Option String))
        fun result calls after => calls = [] ∧ match result with
          | .ok path => path = attacher.idFile? category ∧
              attacher.registered category files = .ok after
          | .error failure => after = files ∧ ∃ symbol cause, category.target? = some symbol ∧
              attacher.registered category files = .error cause ∧
                failure = .resource s!"failed to create kprobe '{symbol}'" cause := by
    rw [target, idFile, registers]
    have path : Runs files (attacher.registerProbe kind symbol : Load σ String)
        fun result calls after => calls = [] ∧ match result with
          | .ok path => path = attacher.tracefs.probeIdPath kind symbol ∧
              attacher.tracefs.registerProbe kind symbol files = .ok after
          | .error failure => after = files ∧ ∃ other cause, some symbol = some other ∧
              attacher.tracefs.registerProbe kind symbol files = .error cause ∧
                failure = .resource s!"failed to create kprobe '{other}'" cause := by
      refine Runs.changeFiles ?_ ?_
      · exact fun cause failed => Runs.throw ⟨rfl, rfl, symbol, cause, rfl, failed, rfl⟩
      · exact fun changed done => Runs.pure ⟨rfl, rfl, done⟩
    refine Runs.bind path (fun _ _ _ holds => holds) ?_
    rintro found before middle ⟨rfl, rfl, done⟩
    exact Runs.pure ⟨rfl, rfl, done⟩
  cases category with
  | kprobe symbol => exact probe rfl rfl rfl
  | kretprobe symbol => exact probe rfl rfl rfl
  | _ => exact Runs.pure ⟨rfl, rfl, rfl⟩

theorem runs_hookUp (kernel : Kernel σ) (name : String) (program : Handle) (id : UInt64) :
    Runs files (hookUp kernel name program id) fun result calls after => after = files ∧
      HooksUp id program calls result.toOption := by
  refine Runs.request fun opened => Runs.require ?_ ?_
  · rintro failure rfl
    exact ⟨rfl, .closed failure⟩
  · rintro event rfl
    refine Runs.request fun enabled => ?_
    cases enabled with
    | error failure =>
      exact Runs.still (still_close kernel event false) fun _ =>
        Runs.throw ⟨rfl, .disabled event failure⟩
    | ok _ =>
      refine Runs.request fun attached => ?_
      cases attached with
      | error failure =>
        exact Runs.still (still_close kernel event true) fun _ =>
          Runs.throw ⟨rfl, .enabled event (.error failure)⟩
      | ok _ =>
        exact Runs.still (still_hold event) fun _ => Runs.pure ⟨rfl, .enabled event (.ok ())⟩

/-- Attaching a program makes the calls of its group. -/
theorem runs_attach (kernel : Kernel σ) (attacher : Attacher) (submission : Submission) :
    Runs files (attacher.attach kernel submission.name submission.category submission.instructions)
      fun result calls after => Group attacher submission files calls result.toOption after := by
  refine Runs.bind (runs_load kernel attacher submission) ?_ ?_
  · rintro failure calls after ⟨rfl, submits⟩
    exact .refused submits
  · rintro program calls middle ⟨rfl, submits⟩
    refine Runs.still (still_note _ _) fun _ => ?_
    refine Runs.bind (attacher.runs_eventIdPath submission.category) ?_ ?_
    · rintro failure none after ⟨rfl, rfl, _, cause, _, failed, _⟩
      rw [List.append_nil]
      exact .unregistered submits failed
    · rintro path none changed ⟨rfl, idFile, registered⟩
      simp only [List.nil_append]
      cases path with
      | none =>
        rw [registered_of_idFile?_eq_none idFile.symm] at registered
        cases registered
        refine Runs.still (still_note _ _) fun _ => Runs.pure ?_
        rw [List.append_nil]
        exact .alone submits idFile.symm
      | some path =>
        refine Runs.readFiles (Runs.require ?_ ?_)
        · intro fault number
          rw [List.append_nil]
          exact .unnumbered submits registered idFile.symm number
        · intro id number
          refine Runs.bind (runs_hookUp kernel submission.name program id) ?_ ?_
          · rintro failure more after ⟨rfl, hooksUp⟩
            exact .numbered submits registered idFile.symm number hooksUp
          · rintro event more after ⟨rfl, hooksUp⟩
            refine Runs.still (still_note _ _) fun _ => Runs.pure ?_
            rw [List.append_nil]
            exact .numbered submits registered idFile.symm number hooksUp

end Attacher

end ProbeStream
