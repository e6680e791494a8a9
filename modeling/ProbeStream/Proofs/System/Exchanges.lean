import ProbeStream.Proofs.Load.Calls
import ProbeStream.System.Basic

/-!
# Exchanges with a system

The calls of a machine say what the system has answered, but not what it has written for the
verifier, and not from which state it has answered. An `Exchange` is a call with what was written,
and a `Transcript` is a run of exchanges in which each answer is the system's own, from the state
that the exchange before it has left.

`Machine.Asks` says of a step that its calls are such a transcript, and `Load.Asks` says it of a
step of a load over a machine. Both have one rule for each way to put steps together. The calls are
those that loading a program makes: the load itself, the two on the memory limit, and the one that
gives a handle back.
-/

namespace ProbeStream

variable {σ α β : Type}

/-- A system call with its answer, and what was written for the verifier during it. -/
structure Exchange where
  call : SystemCall
  written : Bytes

/-- The system answers in this way and goes on to the other state. -/
inductive Answered (system : System σ) : σ → Exchange → σ → Prop
  | loadProgram {state after : σ} {call : ProgramLoadCall} {answer : Except Errno Handle}
      {written : Bytes} : system.loadProgram call state = ((answer, written), after) →
      Answered system state ⟨.loadProgram call answer, written⟩ after
  | getMemoryLimit {state after : σ} {answer : Except Errno Unit} :
      system.getMemoryLimit state = (answer, after) →
      Answered system state ⟨.getMemoryLimit answer, []⟩ after
  | setMemoryLimit {state after : σ} {soft hard : UInt64} {answer : Except Errno Unit} :
      system.setMemoryLimit soft hard state = (answer, after) →
      Answered system state ⟨.setMemoryLimit soft hard answer, []⟩ after
  | closeHandle {state after : σ} {handle : Handle} :
      system.closeHandle handle state = ((), after) →
      Answered system state ⟨.closeHandle handle, []⟩ after

/-- The system answers one call after the other. -/
inductive Transcript (system : System σ) : σ → List Exchange → σ → Prop
  | nil {state : σ} : Transcript system state [] state
  | cons {state middle last : σ} {exchange : Exchange} {rest : List Exchange} :
      Answered system state exchange middle → Transcript system middle rest last →
      Transcript system state (exchange :: rest) last

theorem Transcript.append {system : System σ} {state middle last : σ}
    {first rest : List Exchange} (begins : Transcript system state first middle)
    (goesOn : Transcript system middle rest last) :
    Transcript system state (first ++ rest) last := by
  induction begins with
  | nil => exact goesOn
  | cons answered _ ih => exact .cons answered (ih goesOn)

/-- The machine has made the calls of a transcript, and no others. -/
structure Machine.Exchanged (system : System σ) (before : Machine σ) (exchanges : List Exchange)
    (after : Machine σ) : Prop where
  transcript : Transcript system before.system exchanges after.system
  calls : after.calls = before.calls ++ exchanges.map Exchange.call

namespace Machine.Exchanged

variable {system : System σ} {before middle after : Machine σ} {first rest : List Exchange}

theorem nil (system : System σ) (machine : Machine σ) : Exchanged system machine [] machine :=
  ⟨.nil, (List.append_nil machine.calls).symm⟩

theorem append (begins : Exchanged system before first middle)
    (goesOn : Exchanged system middle rest after) :
    Exchanged system before (first ++ rest) after := by
  refine ⟨begins.transcript.append goesOn.transcript, ?_⟩
  rw [goesOn.calls, begins.calls, List.map_append, List.append_assoc]

end Machine.Exchanged

/-! ## Steps of a machine -/

namespace Machine

variable {system : System σ} {step : StateM (Machine σ) α} {next : α → StateM (Machine σ) β}

/-- Whatever the machine, the step makes the calls of a transcript and ends with a result, and
`post` holds of both. -/
def Asks (system : System σ) (step : StateM (Machine σ) α) (post : α → List Exchange → Prop) :
    Prop :=
  ∀ machine, ∃ exchanges,
    Exchanged system machine exchanges (step machine).2 ∧ post (step machine).1 exchanges

namespace Asks

variable {post : α → List Exchange → Prop} {goal : β → List Exchange → Prop}

theorem pure {value : α} (holds : post value []) :
    Asks system (pure value : StateM (Machine σ) α) post :=
  fun machine => ⟨[], .nil system machine, holds⟩

theorem bind (first : Asks system step post)
    (goesOn : ∀ value before, post value before →
      Asks system (next value) fun result exchanges => goal result (before ++ exchanges)) :
    Asks system (step >>= next) goal := by
  intro machine
  obtain ⟨before, exchanged, holds⟩ := first machine
  obtain ⟨exchanges, exchangedLater, reached⟩ := goesOn _ before holds (step machine).2
  exact ⟨before ++ exchanges, exchanged.append exchangedLater, reached⟩

/-- A call that is answered in a way that an exchange records. -/
theorem perform {ask : StateM σ α} {record : α → SystemCall} (exchange : α → Exchange)
    (recorded : ∀ answer, (exchange answer).call = record answer)
    (answered : ∀ state, Answered system state (exchange (ask state).1) (ask state).2)
    (goesOn : ∀ answer, Asks system (next answer) fun result exchanges =>
      goal result (exchange answer :: exchanges)) :
    Asks system (Machine.perform ask record >>= next) goal := by
  have asked : Asks system (Machine.perform ask record) fun answer exchanges =>
      exchanges = [exchange answer] := by
    intro machine
    refine ⟨[exchange (ask machine.system).1], ⟨.cons (answered machine.system) .nil, ?_⟩, rfl⟩
    show machine.calls ++ [record _] = _
    rw [← recorded]
    rfl
  refine bind asked ?_
  rintro answer _ rfl
  exact goesOn answer

theorem loadProgram {call : ProgramLoadCall}
    {next : Except Errno Handle × Bytes → StateM (Machine σ) β}
    (goesOn : ∀ answer written, Asks system (next (answer, written)) fun result exchanges =>
      goal result (⟨.loadProgram call answer, written⟩ :: exchanges)) :
    Asks system (Machine.loadProgram system call >>= next) goal :=
  perform (fun found => ⟨.loadProgram call found.1, found.2⟩) (fun _ => rfl)
    (fun _ => .loadProgram rfl) fun found => goesOn found.1 found.2

theorem getMemoryLimit {next : Except Errno Unit → StateM (Machine σ) β}
    (goesOn : ∀ answer, Asks system (next answer) fun result exchanges =>
      goal result (⟨.getMemoryLimit answer, []⟩ :: exchanges)) :
    Asks system (Machine.getMemoryLimit system >>= next) goal :=
  perform (fun answer => ⟨.getMemoryLimit answer, []⟩) (fun _ => rfl)
    (fun _ => .getMemoryLimit rfl) goesOn

theorem setMemoryLimit {soft hard : UInt64} {next : Except Errno Unit → StateM (Machine σ) β}
    (goesOn : ∀ answer, Asks system (next answer) fun result exchanges =>
      goal result (⟨.setMemoryLimit soft hard answer, []⟩ :: exchanges)) :
    Asks system (Machine.setMemoryLimit system soft hard >>= next) goal :=
  perform (fun answer => ⟨.setMemoryLimit soft hard answer, []⟩) (fun _ => rfl)
    (fun _ => .setMemoryLimit rfl) goesOn

theorem closeHandle {handle : Handle} {next : Unit → StateM (Machine σ) β}
    (goesOn : Asks system (next ()) fun result exchanges =>
      goal result (⟨.closeHandle handle, []⟩ :: exchanges)) :
    Asks system (Machine.closeHandle system handle >>= next) goal :=
  perform (fun _ => ⟨.closeHandle handle, []⟩) (fun _ => rfl)
    (fun _ => .closeHandle rfl) fun _ => goesOn

end Asks

end Machine

/-! ## Steps of a load -/

namespace Load

variable {system : System σ}

/-- Whatever the session, the step makes the system calls of a transcript and ends with a result,
and `post` holds of both. -/
def Asks (system : System σ) (step : Load (Machine σ) α)
    (post : Except LoadError α → List Exchange → Prop) : Prop :=
  ∀ session, ∃ exchanges,
    Machine.Exchanged system session.kernel exchanges (step session).2.kernel ∧
      post (step session).1 exchanges

namespace Asks

variable {next : α → Load (Machine σ) β} {goal : Except LoadError β → List Exchange → Prop}

theorem pure {post : Except LoadError α → List Exchange → Prop} {value : α}
    (holds : post (.ok value) []) : Asks system (pure value : Load (Machine σ) α) post :=
  fun session => ⟨[], .nil system session.kernel, holds⟩

theorem throw {post : Except LoadError α → List Exchange → Prop} {failure : LoadError}
    (holds : post (.error failure) []) : Asks system (throw failure : Load (Machine σ) α) post :=
  fun session => ⟨[], .nil system session.kernel, holds⟩

theorem require {ε : Type} {post : Except LoadError α → List Exchange → Prop}
    {answer : Except ε α} {explain : ε → LoadError} (holds : post (answer.mapError explain) []) :
    Asks system (require answer explain : Load (Machine σ) α) post :=
  fun session => ⟨[], .nil system session.kernel, holds⟩

theorem note {severity : Severity} {text : String} {next : Unit → Load (Machine σ) β}
    (goesOn : Asks system (next ()) goal) :
    Asks system (note severity text >>= next) goal := by
  intro session
  let noted : Session (Machine σ) := { session with log := session.log ++ [⟨severity, text⟩] }
  have ends : Load.note severity text session = (.ok (), noted) := rfl
  rw [bind_of_ok ends]
  exact goesOn noted

/-- A request to a kernel over the machine makes the system calls of its operation. -/
theorem request {ask : StateM (Machine σ) α} {record : α → KernelCall}
    {post : α → List Exchange → Prop} (asked : Machine.Asks system ask post)
    (goesOn : ∀ answer before, post answer before →
      Asks system (next answer) fun result exchanges => goal result (before ++ exchanges)) :
    Asks system (Load.request ask record >>= next) goal := by
  intro session
  obtain ⟨before, exchanged, holds⟩ := asked session.kernel
  rcases answered : ask session.kernel with ⟨answer, machine⟩
  rw [answered] at exchanged holds
  let after : Session (Machine σ) :=
    { session with kernel := machine, calls := session.calls ++ [record answer] }
  have ends : Load.request ask record session = (.ok answer, after) := by
    show (Except.ok (ask session.kernel).1, _) = _
    rw [answered]
  rw [bind_of_ok ends]
  obtain ⟨exchanges, exchangedLater, reached⟩ := goesOn answer before holds after
  exact ⟨before ++ exchanges, exchanged.append exchangedLater, reached⟩

end Asks

end Load

end ProbeStream
