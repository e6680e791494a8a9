import ProbeStream.System.Event

/-!
# Calls of a machine step

A step of a machine only adds calls to those that were made before. `Makes step post` says of a step
that, whatever the state of the system, `post` is true of its result and of the calls that it adds.
There is one rule for each way to put steps together, so that a statement about an operation is put
together from statements about its calls.
-/

namespace ProbeStream

namespace Machine

variable {σ α β : Type}

/-- Whatever the machine, the step makes some calls and ends with a result, and `post` holds of
both. -/
def Makes (step : StateM (Machine σ) α) (post : α → List SystemCall → Prop) : Prop :=
  ∀ machine, ∃ calls,
    (step machine).2.calls = machine.calls ++ calls ∧ post (step machine).1 calls

namespace Makes

variable {step : StateM (Machine σ) α} {next : α → StateM (Machine σ) β}
  {post : α → List SystemCall → Prop} {goal : β → List SystemCall → Prop}

theorem weaken (makes : Makes step post) {weaker : α → List SystemCall → Prop}
    (implies : ∀ result calls, post result calls → weaker result calls) : Makes step weaker := by
  intro machine
  obtain ⟨calls, added, holds⟩ := makes machine
  exact ⟨calls, added, implies _ _ holds⟩

theorem pure {value : α} (holds : post value []) :
    Makes (pure value : StateM (Machine σ) α) post :=
  fun machine => ⟨[], (List.append_nil machine.calls).symm, holds⟩

/-- The calls of a sequence are those of its first step and then those of the second. -/
theorem bind (first : Makes step post)
    (goesOn : ∀ value before, post value before →
      Makes (next value) fun result calls => goal result (before ++ calls)) :
    Makes (step >>= next) goal := by
  intro machine
  obtain ⟨before, added, holds⟩ := first machine
  obtain ⟨calls, addedLater, reached⟩ := goesOn _ before holds (step machine).2
  refine ⟨before ++ calls, ?_, reached⟩
  rw [← List.append_assoc, ← added]
  exact addedLater

/-- A system call is one call, with whatever answer. -/
theorem performed (ask : StateM σ α) (record : α → SystemCall) :
    Makes (Machine.perform ask record) fun answer calls => calls = [record answer] :=
  fun _ => ⟨_, rfl, rfl⟩

/-- Two statements about one step are about the same calls. -/
theorem both {other : α → List SystemCall → Prop} (first : Makes step post)
    (second : Makes step other) :
    Makes step fun result calls => post result calls ∧ other result calls := by
  intro machine
  obtain ⟨calls, added, holds⟩ := first machine
  obtain ⟨again, addedAgain, alsoHolds⟩ := second machine
  obtain rfl : calls = again := List.append_cancel_left (added.symm.trans addedAgain)
  exact ⟨calls, added, holds, alsoHolds⟩

theorem perform {ask : StateM σ α} {record : α → SystemCall}
    (goesOn : ∀ answer,
      Makes (next answer) fun result calls => goal result (record answer :: calls)) :
    Makes (Machine.perform ask record >>= next) goal := by
  refine bind (performed ask record) ?_
  rintro answer before rfl
  exact goesOn answer

/-- What is known of all answers to a call is known of the one that comes. -/
theorem answered {ask : StateM σ α} {record : α → SystemCall} {holds : α → Prop}
    (answers : ∀ state, holds (ask state).1)
    (goesOn : ∀ answer, holds answer →
      Makes (next answer) fun result calls => goal result (record answer :: calls)) :
    Makes (Machine.perform ask record >>= next) goal := by
  have asked : Makes (Machine.perform ask record) fun answer calls =>
      calls = [record answer] ∧ holds answer :=
    fun machine => ⟨[record (ask machine.system).1], rfl, rfl, answers machine.system⟩
  refine bind asked ?_
  rintro answer before ⟨rfl, known⟩
  exact goesOn answer known

/-- A request on an event is one call. Its answer is recorded as it is and passed on with another
number if that number is not known. -/
theorem performOnEvent {ask : StateM σ (Except Errno α)} {record : Except Errno α → SystemCall}
    {next : Except Errno α → StateM (Machine σ) β}
    (goesOn : ∀ answer, Makes (next (answer.mapError Errno.orSuccess)) fun result calls =>
      goal result (record answer :: calls)) :
    Makes (Machine.performOnEvent ask record >>= next) goal := by
  have asked : Makes (Machine.performOnEvent ask record) fun result calls =>
      ∃ answer, result = answer.mapError Errno.orSuccess ∧ calls = [record answer] :=
    fun _ => ⟨_, rfl, _, rfl, rfl⟩
  refine bind asked ?_
  rintro result before ⟨answer, rfl, rfl⟩
  exact goesOn answer

end Makes

end Machine

namespace OpenEvent

variable {σ : Type}

theorem makes_enable (system : System σ) (event : OpenEvent) :
    Machine.Makes (event.enable system) fun result calls =>
      ∃ answer, calls = [.enableEvent event.handle answer] ∧
        match answer with
        | .error code => result = (.error code.orSuccess, event)
        | .ok () => result = (.ok (), ⟨event.handle, true⟩) := by
  refine .performOnEvent fun answer => ?_
  rcases answer with code | _ <;> exact .pure ⟨_, rfl, rfl⟩

theorem makes_disable (system : System σ) (event : OpenEvent) :
    Machine.Makes (event.disable system) fun _ calls =>
      ∃ answer, calls = [.disableEvent event.handle answer] := by
  refine .performOnEvent fun answer => ?_
  rcases answer with code | _ <;> exact .pure ⟨_, rfl⟩

theorem makes_close_of_new (system : System σ) (handle : Handle) :
    Machine.Makes (close system ⟨handle, false⟩) fun _ calls => calls = [.closeHandle handle] :=
  Machine.Makes.performed (system.closeHandle handle) fun _ => .closeHandle handle

/-- An event that was enabled is disabled first, whatever comes of it. -/
theorem makes_close_of_enabled (system : System σ) (handle : Handle) :
    Machine.Makes (close system ⟨handle, true⟩) fun _ calls =>
      ∃ answer, calls = [.disableEvent handle answer, .closeHandle handle] := by
  have closes : close system ⟨handle, true⟩ =
    disable system ⟨handle, true⟩ >>= fun _ => Machine.closeHandle system handle := rfl
  rw [closes]
  refine (makes_disable system ⟨handle, true⟩).bind ?_
  rintro _ before ⟨answer, rfl⟩
  exact (Machine.Makes.performed _ _).weaken fun _ _ same => ⟨answer, congrArg _ same⟩

end OpenEvent

end ProbeStream
