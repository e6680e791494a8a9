import ProbeStream.Load.Session

/-!
# Calls and files of a load step

A step of a load adds calls to a session, and it may change the files. `Runs files step post` says
of a step that begins with these files: whatever else the session holds, `post` is true of the
result, of the calls that were added and of the files that are left. There is one rule for each
operation of a session, and one for sequences, which hands the files on from one step to the next,
so that a statement about a pass is put together from statements about its steps.

`Makes step post` leaves the files out, and `Idle step` is the special case of a step that loads no
program.
-/

namespace ProbeStream

/-- Whether a call is a request to load a program. -/
def KernelCall.isLoad : KernelCall → Bool
  | .loadProgram _ _ => true
  | _ => false

namespace Load

variable {σ α β : Type}

/-- Beginning with these files, the step makes some calls, leaves some files and ends with a result,
and `post` holds of the three. -/
def Runs (files : Fs.Tree) (step : Load σ α)
    (post : Except LoadError α → List KernelCall → Fs.Tree → Prop) : Prop :=
  ∀ session : Session σ, session.files = files → ∃ calls,
    (step session).2.calls = session.calls ++ calls ∧
      post (step session).1 calls (step session).2.files

/-- Whatever the session, the step makes some calls and ends with a result, and `post` holds of
both. -/
def Makes (step : Load σ α) (post : Except LoadError α → List KernelCall → Prop) : Prop :=
  ∀ session, ∃ calls, (step session).2.calls = session.calls ++ calls ∧ post (step session).1 calls

/-- The step loads no program. -/
def Idle (step : Load σ α) : Prop := Makes step fun _ calls => ∀ call ∈ calls, ¬ call.isLoad

/-! ## Steps without calls -/

/-- The step makes no calls and does not fail. -/
def Silent (step : Load σ α) : Prop :=
  ∀ session, (step session).2.calls = session.calls ∧ ∃ value, (step session).1 = .ok value

/-- The step makes no calls, leaves the files as they are and does not fail. -/
def Still (step : Load σ α) : Prop :=
  Silent step ∧ ∀ session, (step session).2.files = session.files

theorem still_note (severity : Severity) (text : String) :
    Still (note severity text : Load σ Unit) := ⟨fun _ => ⟨rfl, (), rfl⟩, fun _ => rfl⟩

theorem still_noteAll (entries : Log) : Still (noteAll entries : Load σ Unit) :=
  ⟨fun _ => ⟨rfl, (), rfl⟩, fun _ => rfl⟩

theorem still_close (kernel : Kernel σ) (event : Handle) (enabled : Bool) :
    Still (close kernel event enabled) := ⟨fun _ => ⟨rfl, (), rfl⟩, fun _ => rfl⟩

theorem still_hold (event : Handle) : Still (hold event : Load σ Unit) :=
  ⟨fun _ => ⟨rfl, (), rfl⟩, fun _ => rfl⟩

/-! ## Sequences -/

section

variable {session after : Session σ} {step : Load σ α}

theorem bind_of_ok {value : α} (ends : step session = (.ok value, after)) (next : α → Load σ β) :
    (step >>= next) session = next value after := by
  show ExceptT.bindCont next (step session).1 (step session).2 = _
  rw [ends]
  rfl

theorem bind_of_error {failure : LoadError} (ends : step session = (.error failure, after))
    (next : α → Load σ β) : (step >>= next) session = (.error failure, after) := by
  show ExceptT.bindCont next (step session).1 (step session).2 = _
  rw [ends]
  rfl

end

/-! ## Rules -/

namespace Runs

variable {files : Fs.Tree} {step : Load σ α} {next : α → Load σ β}
  {post : Except LoadError α → List KernelCall → Fs.Tree → Prop}
  {goal : Except LoadError β → List KernelCall → Fs.Tree → Prop}

theorem weaken (runs : Runs files step post)
    {weaker : Except LoadError α → List KernelCall → Fs.Tree → Prop}
    (implies : ∀ result calls after, post result calls after → weaker result calls after) :
    Runs files step weaker := by
  intro session begins
  obtain ⟨calls, added, holds⟩ := runs session begins
  exact ⟨calls, added, implies _ _ _ holds⟩

theorem pure {value : α} (holds : post (.ok value) [] files) :
    Runs files (pure value : Load σ α) post := by
  rintro session rfl
  exact ⟨[], (List.append_nil session.calls).symm, holds⟩

theorem throw {failure : LoadError} (holds : post (.error failure) [] files) :
    Runs files (throw failure : Load σ α) post := by
  rintro session rfl
  exact ⟨[], (List.append_nil session.calls).symm, holds⟩

/-- The second step of a sequence begins with the files that the first one leaves. -/
theorem bind (first : Runs files step post)
    (stops : ∀ failure calls after,
      post (.error failure) calls after → goal (.error failure) calls after)
    (goesOn : ∀ value before middle, post (.ok value) before middle →
      Runs middle (next value) fun result calls after => goal result (before ++ calls) after) :
    Runs files (step >>= next) goal := by
  intro session begins
  obtain ⟨before, added, holds⟩ := first session begins
  rcases ends : step session with ⟨failure | value, middle⟩
  · rw [ends] at added holds
    rw [bind_of_error ends]
    exact ⟨before, added, stops failure before _ holds⟩
  · rw [ends] at added holds
    rw [bind_of_ok ends]
    obtain ⟨calls, addedLater, reached⟩ := goesOn value before _ holds middle rfl
    refine ⟨before ++ calls, ?_, reached⟩
    rw [← List.append_assoc, ← added]
    exact addedLater

theorem still {step : Load σ α} (still : Still step)
    (goesOn : ∀ value, Runs files (next value) goal) : Runs files (step >>= next) goal := by
  have nothing : Runs files step fun result calls after =>
      calls = [] ∧ after = files ∧ ∃ value, result = .ok value := by
    rintro session rfl
    obtain ⟨same, value, ok⟩ := still.1 session
    exact ⟨[], same.trans (List.append_nil _).symm, rfl, still.2 session, value, ok⟩
  refine bind nothing ?_ ?_
  · rintro failure calls after ⟨_, _, value, impossible⟩
    cases impossible
  · rintro value before middle ⟨rfl, rfl, _⟩
    exact goesOn value

/-- A request is one call. What is known of all answers to it is known of the one that comes. -/
theorem answered {ask : StateM σ α} {record : α → KernelCall} (holds : α → Prop)
    (answers : ∀ state, holds (ask state).1)
    (goesOn : ∀ answer, holds answer → Runs files (next answer) fun result calls after =>
      goal result (record answer :: calls) after) :
    Runs files (Load.request ask record >>= next) goal := by
  have asked : Runs files (Load.request ask record) fun result calls after =>
      after = files ∧ ∃ answer, result = .ok answer ∧ calls = [record answer] ∧ holds answer := by
    rintro session rfl
    exact ⟨[record (ask session.kernel).1], rfl, rfl, _, rfl, rfl, answers session.kernel⟩
  refine bind asked ?_ ?_
  · rintro failure calls after ⟨_, answer, impossible, _⟩
    cases impossible
  · rintro value before middle ⟨rfl, answer, same, rfl, known⟩
    cases same
    exact goesOn value known

/-- A request is one call, with whatever answer. -/
theorem request {ask : StateM σ α} {record : α → KernelCall}
    (goesOn : ∀ answer, Runs files (next answer) fun result calls after =>
      goal result (record answer :: calls) after) :
    Runs files (request ask record >>= next) goal :=
  answered (fun _ => True) (fun _ => trivial) fun answer _ => goesOn answer

/-- A failed answer ends the load, and a good one is used. -/
theorem require {ε : Type} {answer : Except ε α} {explain : ε → LoadError}
    (stops : ∀ failure, answer = .error failure → goal (.error (explain failure)) [] files)
    (goesOn : ∀ value, answer = .ok value → Runs files (next value) goal) :
    Runs files (require answer explain >>= next) goal := by
  cases answer with
  | error failure =>
    rintro session rfl
    exact ⟨[], (List.append_nil _).symm, stops failure rfl⟩
  | ok value => exact goesOn value rfl

theorem changeFiles {change : Fs.Tree → Except IoError Fs.Tree}
    {next : Except IoError Unit → Load σ β}
    (fails : ∀ failure, change files = .error failure → Runs files (next (.error failure)) goal)
    (goesOn : ∀ changed, change files = .ok changed → Runs changed (next (.ok ())) goal) :
    Runs files (changeFiles change >>= next) goal := by
  have changes : Runs files (Load.changeFiles change : Load σ _) fun result calls after =>
      calls = [] ∧ ((∃ failure, change files = .error failure ∧ result = .ok (.error failure) ∧
        after = files) ∨ (change files = .ok after ∧ result = .ok (.ok ()))) := by
    rintro session rfl
    refine ⟨[], ?_⟩
    unfold Load.changeFiles
    cases change session.files with
    | error failure => exact ⟨(List.append_nil _).symm, rfl, .inl ⟨failure, rfl, rfl, rfl⟩⟩
    | ok changed => exact ⟨(List.append_nil _).symm, rfl, .inr ⟨rfl, rfl⟩⟩
  refine bind changes ?_ ?_
  · rintro failure calls after ⟨_, ⟨_, _, impossible, _⟩ | ⟨_, impossible⟩⟩ <;> cases impossible
  · rintro answer before middle ⟨rfl, ⟨failure, failed, same, rfl⟩ | ⟨changed, same⟩⟩
    · cases same
      exact fails failure failed
    · cases same
      exact goesOn middle changed

theorem readFiles {view : Fs.Tree → α} (goesOn : Runs files (next (view files)) goal) :
    Runs files (readFiles view >>= next) goal := by
  rintro session rfl
  exact goesOn session rfl

/-- What two rules say of one step holds of the same calls. -/
theorem both {also : Except LoadError α → List KernelCall → Fs.Tree → Prop}
    (runs : Runs files step post) (runsAlso : Runs files step also) :
    Runs files step fun result calls after =>
      post result calls after ∧ also result calls after := by
  intro session begins
  obtain ⟨calls, added, holds⟩ := runs session begins
  obtain ⟨others, addedAlso, holdsAlso⟩ := runsAlso session begins
  obtain rfl := List.append_cancel_left (added.symm.trans addedAlso)
  exact ⟨calls, added, holds, holdsAlso⟩

theorem makes {post : Except LoadError α → List KernelCall → Prop}
    (runs : ∀ files, Runs files step fun result calls _ => post result calls) : Makes step post :=
  fun session => runs session.files session rfl

end Runs

end Load

end ProbeStream
