import ProbeStream.Load.Attach
import ProbeStream.Proofs.System.Exchanges
import ProbeStream.System.Kernel
import ProbeStream.System.Scripted

/-!
# Submitting a program to a system

Two policies meet when a program is loaded over system calls. Whoever attaches programs raises the
memory limit after a refusal for want of permission and submits the program once more. The kernel
behind system calls asks a second time after any other refusal, with a buffer for the verifier's
messages, only to learn why.

`Explained`, `Submitted` and `Raised` are the exchanges of the parts, and `Course` is how the parts
follow each other. What the exchanges come to is said by `Outcome`: which of the answers the result
is made from, and which text goes with a failure. The main statement is that every load has the
outcome of its exchanges (`load_outcome`).
-/

namespace ProbeStream

namespace Exchange

/-- The load of an exchange and its answer. -/
def load? : Exchange → Option (ProgramLoadCall × Except Errno Handle)
  | ⟨.loadProgram call answer, _⟩ => some (call, answer)
  | _ => none

/-- The exchange is about the memory limit. -/
def isLimit : Exchange → Bool
  | ⟨.getMemoryLimit _, _⟩ => true
  | ⟨.setMemoryLimit _ _ _, _⟩ => true
  | _ => false

end Exchange

namespace SystemKernel

variable {σ : Type}

/-! ## Courses -/

/-- A load without a buffer for the verifier. -/
def plainLoad (request : ProgramRequest) (answer : Except Errno Handle) (written : Bytes) :
    Exchange :=
  ⟨.loadProgram (loadCall request none) answer, written⟩

/-- A load with a buffer for the verifier. -/
def loggedLoad (request : ProgramRequest) (answer : Except Errno Handle) (written : Bytes) :
    Exchange :=
  ⟨.loadProgram (loadCall request (some verifierLogSize)) answer, written⟩

/-- The exchanges that find out why a program was refused, and the text that was found. -/
inductive Explained (request : ProgramRequest) : List Exchange → String → Prop
  | told (again : Errno) (written : Bytes) :
      Explained request [loggedLoad request (.error again) written]
        (Utf8.decodeLossy (Bytes.beforeNul (written.take verifierLogSize)))
  | silent (handle : Handle) (written : Bytes) :
      Explained request [loggedLoad request (.ok handle) written, ⟨.closeHandle handle, []⟩] ""

/-- The exchanges of one submission, and what comes of it. -/
inductive Submitted (request : ProgramRequest) :
    List Exchange → Except ProgramRefusal Handle → Prop
  | accepted (handle : Handle) (written : Bytes) :
      Submitted request [plainLoad request (.ok handle) written] (.ok handle)
  | denied (written : Bytes) :
      Submitted request [plainLoad request (.error .notPermitted) written]
        (.error ⟨.system .notPermitted, ""⟩)
  | refused {code : Errno} (written : Bytes) (other : code ≠ .notPermitted)
      {asking : List Exchange} {text : String} (explained : Explained request asking text) :
      Submitted request (plainLoad request (.error code) written :: asking)
        (.error ⟨.system code, text⟩)

/-- The exchanges that raise the memory limit, and what comes of it. -/
inductive Raised : List Exchange → Except IoError Unit → Prop
  | unknown (code : Errno) : Raised [⟨.getMemoryLimit (.error code), []⟩] (.error (.system code))
  | set (answer : Except Errno Unit) :
      Raised [⟨.getMemoryLimit (.ok ()), []⟩, ⟨.setMemoryLimit unlimited unlimited answer, []⟩]
        (answer.mapError .system)

/-- The exchanges of a load, and its result. -/
inductive Course (request : ProgramRequest) : List Exchange → Except LoadError Handle → Prop
  | once {exchanges : List Exchange} {answer : Except ProgramRefusal Handle}
      (submitted : Submitted request exchanges answer)
      (final : ∀ refusal, answer = .error refusal → ¬ refusal.isPermissionDenied) :
      Course request exchanges (answer.mapError (Attacher.refused request.sectionName))
  | limited (written : Bytes) {limits : List Exchange} {failure : IoError}
      (raised : Raised limits (.error failure)) :
      Course request (plainLoad request (.error .notPermitted) written :: limits)
        (.error (Attacher.lacksPrivilege request.sectionName ⟨.system .notPermitted, ""⟩))
  | again (written : Bytes) {limits exchanges : List Exchange}
      {answer : Except ProgramRefusal Handle} (raised : Raised limits (.ok ()))
      (submitted : Submitted request exchanges answer) :
      Course request (plainLoad request (.error .notPermitted) written :: (limits ++ exchanges))
        (answer.mapError (Attacher.refused request.sectionName))

/-! ## Every load has a course -/

theorem asks_verifierText (system : System σ) (request : ProgramRequest) :
    Machine.Asks system (verifierText system request) fun text exchanges =>
      Explained request exchanges text := by
  refine .loadProgram fun answer written => ?_
  cases answer with
  | error again => exact .pure (.told again written)
  | ok handle => exact .closeHandle (.pure (.silent handle written))

theorem asks_loadProgram (system : System σ) {request : ProgramRequest}
    (noNul : '\x00' ∉ request.license.toList) :
    Machine.Asks system (loadProgram system request) fun answer exchanges =>
      Submitted request exchanges answer := by
  unfold loadProgram
  rw [if_neg noNul]
  refine .loadProgram fun answer written => ?_
  cases answer with
  | ok handle => exact .pure (.accepted handle written)
  | error code =>
    show Machine.Asks system (if code = .notPermitted then _ else _) _
    by_cases denied : code = .notPermitted
    · rw [if_pos denied, denied]
      exact .pure (.denied written)
    · rw [if_neg denied]
      refine (asks_verifierText system request).bind fun text asking explained => .pure ?_
      rw [List.append_nil]
      exact .refused written denied explained

theorem asks_raiseMemoryLimit (system : System σ) :
    Machine.Asks system (raiseMemoryLimit system) fun answer exchanges =>
      Raised exchanges answer := by
  refine .getMemoryLimit fun answer => ?_
  cases answer with
  | error code => exact .pure (.unknown code)
  | ok _ => exact .setMemoryLimit fun answer => .pure (.set answer)

/-- A submission is refused for want of permission only if that is the answer to its one call. -/
theorem Submitted.eq_of_isPermissionDenied {request : ProgramRequest} {exchanges : List Exchange}
    {refusal : ProgramRefusal} (submitted : Submitted request exchanges (.error refusal))
    (denied : refusal.isPermissionDenied) :
    refusal = ⟨.system .notPermitted, ""⟩ ∧
      ∃ written, exchanges = [plainLoad request (.error .notPermitted) written] := by
  cases submitted with
  | denied written => exact ⟨rfl, written, rfl⟩
  | refused written other explained => simp [ProgramRefusal.isPermissionDenied, other] at denied

theorem asks_load (system : System σ) {attacher : Attacher}
    (noNul : '\x00' ∉ attacher.license.toList) (sectionName : String) (category : Bpf.Category)
    (instructions : Bytes) :
    Load.Asks system (attacher.load (kernel system) sectionName category instructions)
      fun result exchanges =>
        Course (attacher.programRequest sectionName category instructions) exchanges result := by
  let request := attacher.programRequest sectionName category instructions
  have submits : Machine.Asks system ((kernel system).loadProgram request) fun answer exchanges =>
      Submitted request exchanges answer := asks_loadProgram system noNul
  refine Load.Asks.request submits ?_
  rintro (refusal | handle) exchanges submitted
  · show Load.Asks system (if refusal.isPermissionDenied then _ else _) _
    by_cases denied : refusal.isPermissionDenied
    · obtain ⟨rfl, written, rfl⟩ := submitted.eq_of_isPermissionDenied denied
      rw [if_pos denied]
      refine .note (.request (asks_raiseMemoryLimit system) ?_)
      rintro (failure | _) limits raised
      · refine .note (.throw ?_)
        rw [List.append_nil]
        exact .limited written raised
      · refine .request submits fun answer exchanges submitted => .require ?_
        show Course request (plainLoad request _ written :: (limits ++ (exchanges ++ []))) _
        rw [List.append_nil exchanges]
        exact .again written raised submitted
    · rw [if_neg denied]
      refine .throw ?_
      rw [List.append_nil]
      refine .once submitted fun other same => ?_
      cases same
      exact denied
  · refine .pure ?_
    rw [List.append_nil]
    exact .once submitted fun _ impossible => nomatch impossible

/-! ## What a course comes to -/

/-- The loads and their answers, in order. -/
def loads (exchanges : List Exchange) : List (ProgramLoadCall × Except Errno Handle) :=
  exchanges.filterMap Exchange.load?

/-- The answers to the loads without a buffer, in order. -/
def plainAnswers (exchanges : List Exchange) : List (Except Errno Handle) :=
  (loads exchanges).filterMap fun load => if load.1.logSize = none then some load.2 else none

/-- The exchanges about the memory limit, in order. -/
def limits (exchanges : List Exchange) : List Exchange := exchanges.filter Exchange.isLimit

/-- Which text goes with the refusal of a program. -/
structure Reported (request : ProgramRequest) (exchanges : List Exchange) (code : Errno)
    (text : String) : Prop where
  /-- There is none after a refusal for want of permission. -/
  denied : code = .notPermitted → text = ""
  /-- The system is asked after every other refusal. -/
  asked : code ≠ .notPermitted → ∃ answer written, loggedLoad request answer written ∈ exchanges
  /-- There is none if the program was accepted when the system was asked. -/
  silent : ∀ handle written, loggedLoad request (.ok handle) written ∈ exchanges → text = ""
  /-- Otherwise it is what was written, up to the first NUL. -/
  told : ∀ again written, loggedLoad request (.error again) written ∈ exchanges →
    text = Utf8.decodeLossy (Bytes.beforeNul (written.take verifierLogSize))

/-- What the exchanges of a load come to. -/
structure Outcome (request : ProgramRequest) (exchanges : List Exchange)
    (result : Except LoadError Handle) : Prop where
  /-- There are at most three loads. -/
  few : (loads exchanges).length ≤ 3
  /-- All of them submit the same program. -/
  same : ∀ load ∈ loads exchanges, ∃ logSize, load.1 = loadCall request logSize
  /-- The memory limit is raised at most once. -/
  once : limits exchanges = [] ∨ ∃ answer, Raised (limits exchanges) answer
  /-- It is raised only after a first refusal for want of permission. -/
  late : limits exchanges ≠ [] → ∃ written later,
    exchanges = plainLoad request (.error .notPermitted) written :: later
  /-- After such a refusal it is raised at once. -/
  prompt : ∀ written later,
    exchanges = plainLoad request (.error .notPermitted) written :: later →
      limits exchanges ≠ [] ∧ ∃ rest, later = limits exchanges ++ rest
  /-- If it could be raised there is a second load without a buffer. -/
  again : Raised (limits exchanges) (.ok ()) → (plainAnswers exchanges).length = 2
  /-- The handle is that of the first load without a buffer or, once the limit is raised, of the
  second. -/
  accepted : ∀ handle, result = .ok handle ↔
    plainAnswers exchanges = [.ok handle] ∨
      plainAnswers exchanges = [.error .notPermitted, .ok handle] ∧
        Raised (limits exchanges) (.ok ())
  /-- A handle that was opened only to learn why is closed at once, and the load fails. -/
  closed : ∀ handle written, loggedLoad request (.ok handle) written ∈ exchanges →
    (∃ before, exchanges =
      before ++ [loggedLoad request (.ok handle) written, ⟨.closeHandle handle, []⟩]) ∧
      ∃ failure, result = .error failure
  /-- A load that succeeds closes nothing. -/
  kept : ∀ handle, result = .ok handle → ∀ exchange ∈ exchanges, ∀ other,
    exchange.call ≠ .closeHandle other
  /-- The number of a failure is that of the last load without a buffer. It is the failure to get
  hold of something if the limit could not be raised, and that of a refused program if not. -/
  failed : ∀ failure, result = .error failure → ∃ code,
    (plainAnswers exchanges).getLast? = some (.error code) ∧
      (((∃ cause, Raised (limits exchanges) (.error cause)) ∧
          failure = .resource (s!"failed to load program `{request.sectionName}`: " ++
            "insufficient privilege or locked-memory limit") (.system code)) ∨
        (¬ ∃ cause, Raised (limits exchanges) (.error cause)) ∧ ∃ text,
          failure = .programLoad request.sectionName (.system code) text ∧
            Reported request exchanges code text)

section

variable {request : ProgramRequest} {exchanges : List Exchange}

@[simp] theorem loads_plainLoad_cons (answer : Except Errno Handle) (written : Bytes) :
    loads (plainLoad request answer written :: exchanges) =
      (loadCall request none, answer) :: loads exchanges := rfl

@[simp] theorem limits_plainLoad_cons (answer : Except Errno Handle) (written : Bytes) :
    limits (plainLoad request answer written :: exchanges) = limits exchanges := rfl

@[simp] theorem loggedLoad_ne_plainLoad {answer other : Except Errno Handle}
    {written more : Bytes} :
    loggedLoad request answer written ≠ plainLoad request other more := by
  simp [loggedLoad, plainLoad, loadCall]

@[simp] theorem loggedLoad_ne_closeHandle {answer : Except Errno Handle} {written more : Bytes}
    {handle : Handle} : loggedLoad request answer written ≠ ⟨.closeHandle handle, more⟩ := by
  simp [loggedLoad]

@[simp] theorem loggedLoad_inj {answer other : Except Errno Handle} {written more : Bytes} :
    loggedLoad request answer written = loggedLoad request other more ↔
      answer = other ∧ written = more := by
  simp [loggedLoad]

/-! ### One submission -/

/-- A submission loads without a buffer once, and then perhaps with one. -/
theorem Submitted.loads_eq {answer : Except ProgramRefusal Handle}
    (submitted : Submitted request exchanges answer) :
    ∃ plain more, loads exchanges = (loadCall request none, plain) :: more ∧ more.length ≤ 1 ∧
      ∀ load ∈ more, load.1 = loadCall request (some verifierLogSize) := by
  cases submitted with
  | accepted handle written => exact ⟨.ok handle, [], rfl, by decide, by simp⟩
  | denied written => exact ⟨.error .notPermitted, [], rfl, by decide, by simp⟩
  | @refused code written other asking text explained =>
    cases explained with
    | told again more => exact ⟨.error code, [(_, .error again)], rfl, Nat.le_refl 1, by simp⟩
    | silent handle more => exact ⟨.error code, [(_, .ok handle)], rfl, Nat.le_refl 1, by simp⟩

theorem Submitted.plainAnswers_eq {answer : Except ProgramRefusal Handle}
    (submitted : Submitted request exchanges answer) :
    ∃ plain, plainAnswers exchanges = [plain] := by
  cases submitted with
  | accepted handle written => exact ⟨.ok handle, rfl⟩
  | denied written => exact ⟨.error .notPermitted, rfl⟩
  | @refused code written other asking text explained =>
    cases explained <;> exact ⟨.error code, rfl⟩

theorem Submitted.limits_eq {answer : Except ProgramRefusal Handle}
    (submitted : Submitted request exchanges answer) : limits exchanges = [] := by
  cases submitted with
  | accepted handle written => rfl
  | denied written => rfl
  | refused written other explained => cases explained <;> rfl

/-- The handle of a submission is that of its load without a buffer, and it is not given back. -/
theorem Submitted.of_ok {handle : Handle} (submitted : Submitted request exchanges (.ok handle)) :
    ∃ written, exchanges = [plainLoad request (.ok handle) written] := by
  cases submitted with
  | accepted _ written => exact ⟨written, rfl⟩

/-- The number of a refusal is that of the load without a buffer. -/
theorem Submitted.of_error {refusal : ProgramRefusal}
    (submitted : Submitted request exchanges (.error refusal)) :
    ∃ code, plainAnswers exchanges = [.error code] ∧ refusal.failure = .system code ∧
      Reported request exchanges code refusal.log := by
  cases submitted with
  | denied written =>
    exact ⟨.notPermitted, rfl, rfl, fun _ => rfl, absurd rfl, by simp, by simp⟩
  | @refused code written other asking text explained =>
    refine ⟨code, ?_, rfl, fun same => absurd same other, fun _ => ?_, ?_, ?_⟩
    · cases explained <;> rfl
    · cases explained with
      | told again more => exact ⟨.error again, more, by simp⟩
      | silent handle more => exact ⟨.ok handle, more, by simp⟩
    · intro handle more found
      cases explained with
      | told again wrote => simp at found
      | silent opened wrote => rfl
    · intro again more found
      cases explained with
      | told met wrote =>
        obtain ⟨-, rfl⟩ : again = met ∧ more = wrote := by simpa using found
        rfl
      | silent opened wrote => simp at found

/-- A handle that was opened only to learn why is closed at once. -/
theorem Submitted.closed {answer : Except ProgramRefusal Handle}
    (submitted : Submitted request exchanges answer) {handle : Handle} {written : Bytes}
    (found : loggedLoad request (.ok handle) written ∈ exchanges) :
    (∃ before, exchanges =
      before ++ [loggedLoad request (.ok handle) written, ⟨.closeHandle handle, []⟩]) ∧
      ∃ refusal, answer = .error refusal := by
  cases submitted with
  | accepted _ _ => simp at found
  | denied _ => simp at found
  | @refused code wrote other asking text explained =>
    refine ⟨⟨[plainLoad request (.error code) wrote], ?_⟩, _, rfl⟩
    cases explained with
    | told again more => simp at found
    | silent opened more =>
      obtain ⟨rfl, rfl⟩ : handle = opened ∧ written = more := by simpa using found
      rfl

/-- A load that ends with a submission succeeds if the load without a buffer does. -/
theorem Submitted.ok_iff {answer : Except ProgramRefusal Handle}
    (submitted : Submitted request exchanges answer) (handle : Handle) :
    answer.mapError (Attacher.refused request.sectionName) = .ok handle ↔
      plainAnswers exchanges = [.ok handle] := by
  cases answer with
  | ok opened =>
    obtain ⟨written, rfl⟩ := submitted.of_ok
    show (.ok opened : Except LoadError Handle) = .ok handle ↔ _
    simp [plainAnswers, loadCall, loads, plainLoad, Exchange.load?]
  | error refusal =>
    obtain ⟨code, answers, -⟩ := submitted.of_error
    show (.error _ : Except LoadError Handle) = .ok handle ↔ _
    simp [answers]

/-- Then nothing is closed. -/
theorem Submitted.kept {answer : Except ProgramRefusal Handle}
    (submitted : Submitted request exchanges answer) {handle : Handle}
    (same : answer.mapError (Attacher.refused request.sectionName) = .ok handle) :
    ∀ exchange ∈ exchanges, ∀ other, exchange.call ≠ .closeHandle other := by
  cases answer with
  | ok opened =>
    obtain ⟨written, rfl⟩ := submitted.of_ok
    simp [plainLoad]
  | error refusal => cases same

/-- Otherwise it fails with the number of that load, and with the text that goes with it. -/
theorem Submitted.failed {answer : Except ProgramRefusal Handle}
    (submitted : Submitted request exchanges answer) {failure : LoadError}
    (same : answer.mapError (Attacher.refused request.sectionName) = .error failure) :
    ∃ code text, plainAnswers exchanges = [.error code] ∧
      failure = .programLoad request.sectionName (.system code) text ∧
      Reported request exchanges code text := by
  cases answer with
  | ok opened => cases same
  | error refusal =>
    obtain ⟨code, answers, cause, reported⟩ := submitted.of_error
    cases same
    exact ⟨code, refusal.log, answers, by rw [Attacher.refused, cause], reported⟩

/-! ### Raising the limit -/

theorem Raised.limits_eq {answer : Except IoError Unit} (raised : Raised exchanges answer) :
    limits exchanges = exchanges := by
  cases raised <;> rfl

theorem Raised.loads_eq {answer : Except IoError Unit} (raised : Raised exchanges answer) :
    loads exchanges = [] := by
  cases raised <;> rfl

theorem Raised.unique {answer other : Except IoError Unit} (raised : Raised exchanges answer)
    (again : Raised exchanges other) : answer = other := by
  cases raised with
  | unknown code =>
    cases again with
    | unknown _ => rfl
  | set answer =>
    cases again with
    | set _ => rfl

/-- Raising the limit neither loads a program nor closes a handle. -/
theorem Raised.isLimit {answer : Except IoError Unit} (raised : Raised exchanges answer) :
    ∀ exchange ∈ exchanges, exchange.isLimit := by
  intro exchange found
  rw [← raised.limits_eq, limits, List.mem_filter] at found
  exact found.2

theorem not_raised_nil (answer : Except IoError Unit) : ¬ Raised [] answer := nofun

theorem Raised.ne_nil {answer : Except IoError Unit} (raised : Raised exchanges answer) :
    exchanges ≠ [] := by
  rintro rfl
  exact not_raised_nil answer raised

/-! ### The whole load -/

theorem loads_append (first rest : List Exchange) :
    loads (first ++ rest) = loads first ++ loads rest := List.filterMap_append

theorem limits_append (first rest : List Exchange) :
    limits (first ++ rest) = limits first ++ limits rest := List.filter_append ..

/-- What is known of a load that goes no further than its first submission. -/
theorem Submitted.outcome {answer : Except ProgramRefusal Handle}
    (submitted : Submitted request exchanges answer)
    (final : ∀ refusal, answer = .error refusal → ¬ refusal.isPermissionDenied) :
    Outcome request exchanges (answer.mapError (Attacher.refused request.sectionName)) := by
  obtain ⟨plain, more, loaded, short, logged⟩ := submitted.loads_eq
  have noLimits := submitted.limits_eq
  refine {
    few := by rw [loaded, List.length_cons]; omega
    same := ?_
    once := .inl noLimits
    late := absurd noLimits
    prompt := ?_
    again := fun raised => absurd (noLimits ▸ raised) (not_raised_nil _)
    accepted := fun handle => ?_
    closed := fun handle written found => ?_
    kept := fun _ => submitted.kept
    failed := fun failure same => ?_ }
  · rw [loaded]
    rintro load (_ | ⟨_, later⟩)
    · exact ⟨none, rfl⟩
    · exact ⟨_, logged load later⟩
  · rintro written later rfl
    cases submitted with
    | denied _ => exact absurd (by decide) (final _ rfl)
    | refused _ other explained => exact absurd rfl other
  · rw [noLimits, submitted.ok_iff, or_iff_left]
    exact fun impossible => not_raised_nil _ impossible.2
  · obtain ⟨atOnce, refusal, rfl⟩ := submitted.closed found
    exact ⟨atOnce, _, rfl⟩
  · obtain ⟨code, text, answers, rfl, reported⟩ := submitted.failed same
    refine ⟨code, by rw [answers]; rfl, .inr ⟨?_, text, rfl, reported⟩⟩
    rw [noLimits]
    rintro ⟨cause, impossible⟩
    exact not_raised_nil _ impossible

/-- Neither a load without a buffer nor raising the limit asks the verifier. -/
theorem Raised.mem_of_loggedLoad_mem {answer : Except IoError Unit} {later : List Exchange}
    (raised : Raised exchanges answer) {plain asked : Except Errno Handle} {first written : Bytes}
    (found : loggedLoad request asked written ∈
      plainLoad request plain first :: (exchanges ++ later)) :
    loggedLoad request asked written ∈ later := by
  rcases List.mem_cons.mp found with same | found
  · exact absurd same loggedLoad_ne_plainLoad
  · rcases List.mem_append.mp found with limit | found
    · cases raised.isLimit _ limit
    · exact found

/-- So what was reported of a submission behind them stays as it was. -/
theorem Raised.reported {answer : Except IoError Unit} {later : List Exchange} {code : Errno}
    {text : String} (raised : Raised exchanges answer) (reported : Reported request later code text)
    (written : Bytes) : Reported request
      (plainLoad request (.error .notPermitted) written :: (exchanges ++ later)) code text where
  denied := reported.denied
  asked other := by
    obtain ⟨asked, wrote, found⟩ := reported.asked other
    exact ⟨asked, wrote, .tail _ (List.mem_append_right exchanges found)⟩
  silent handle wrote found :=
    reported.silent handle wrote (raised.mem_of_loggedLoad_mem found)
  told again wrote found :=
    reported.told again wrote (raised.mem_of_loggedLoad_mem found)

/-- What is known of a load whose limit cannot be raised. -/
theorem Raised.outcome {failure : IoError} (raised : Raised exchanges (.error failure))
    (written : Bytes) :
    Outcome request (plainLoad request (.error .notPermitted) written :: exchanges)
      (.error (Attacher.lacksPrivilege request.sectionName ⟨.system .notPermitted, ""⟩)) := by
  have limitsEq : limits (plainLoad request (.error .notPermitted) written :: exchanges) =
      exchanges := raised.limits_eq
  have answers : plainAnswers (plainLoad request (.error .notPermitted) written :: exchanges) =
      [.error .notPermitted] := by
    rw [plainAnswers, loads_plainLoad_cons, raised.loads_eq]
    rfl
  have unasked (answer : Except Errno Handle) (more : Bytes) : loggedLoad request answer more ∉
      plainLoad request (.error .notPermitted) written :: exchanges := by
    rw [← List.append_nil exchanges]
    exact fun found => List.not_mem_nil (raised.mem_of_loggedLoad_mem found)
  refine {
    few := by rw [loads_plainLoad_cons, raised.loads_eq, List.length_singleton]; omega
    same := ?_
    once := .inr ⟨.error failure, limitsEq.symm ▸ raised⟩
    late := fun _ => ⟨written, exchanges, rfl⟩
    prompt := ?_
    again := fun impossible => ?_
    accepted := fun handle => by simp [answers]
    closed := fun handle more found => absurd found (unasked _ more)
    kept := fun _ impossible => nomatch impossible
    failed := ?_ }
  · rw [loads_plainLoad_cons, raised.loads_eq]
    rintro load (_ | ⟨_, ⟨⟩⟩)
    exact ⟨none, rfl⟩
  · rintro other later ⟨⟩
    rw [limitsEq]
    exact ⟨raised.ne_nil, [], (List.append_nil exchanges).symm⟩
  · rw [limitsEq] at impossible
    cases raised.unique impossible
  · rintro _ ⟨⟩
    exact ⟨.notPermitted, by rw [answers]; rfl, .inl ⟨⟨failure, limitsEq.symm ▸ raised⟩, rfl⟩⟩

/-- What is known of a load that goes on after the limit was raised. -/
theorem Submitted.outcome_again {answer : Except ProgramRefusal Handle} {later : List Exchange}
    (raised : Raised exchanges (.ok ())) (submitted : Submitted request later answer)
    (written : Bytes) :
    Outcome request (plainLoad request (.error .notPermitted) written :: (exchanges ++ later))
      (answer.mapError (Attacher.refused request.sectionName)) := by
  have loadsEq : loads (plainLoad request (.error .notPermitted) written :: (exchanges ++ later)) =
      (loadCall request none, .error .notPermitted) :: loads later := by
    rw [loads_plainLoad_cons, loads_append, raised.loads_eq, List.nil_append]
  have limitsEq : limits (plainLoad request (.error .notPermitted) written ::
      (exchanges ++ later)) = exchanges := by
    rw [limits_plainLoad_cons, limits_append, raised.limits_eq, submitted.limits_eq,
      List.append_nil]
  have answersEq : plainAnswers (plainLoad request (.error .notPermitted) written ::
      (exchanges ++ later)) = .error .notPermitted :: plainAnswers later := by
    rw [plainAnswers, loadsEq]
    rfl
  obtain ⟨plain, more, loaded, short, logged⟩ := submitted.loads_eq
  refine {
    few := by rw [loadsEq, loaded, List.length_cons, List.length_cons]; omega
    same := ?_
    once := .inr ⟨.ok (), limitsEq.symm ▸ raised⟩
    late := fun _ => ⟨written, exchanges ++ later, rfl⟩
    prompt := ?_
    again := fun _ => ?_
    accepted := fun handle => ?_
    closed := fun handle more found => ?_
    kept := fun handle same => ?_
    failed := fun failure same => ?_ }
  · rw [loadsEq, loaded]
    rintro load (_ | ⟨_, _ | ⟨_, last⟩⟩)
    · exact ⟨none, rfl⟩
    · exact ⟨none, rfl⟩
    · exact ⟨_, logged load last⟩
  · rintro other rest ⟨⟩
    rw [limitsEq]
    exact ⟨raised.ne_nil, later, rfl⟩
  · obtain ⟨only, one⟩ := submitted.plainAnswers_eq
    rw [answersEq, one]
    rfl
  · rw [answersEq, limitsEq, submitted.ok_iff]
    simp [raised]
  · obtain ⟨⟨before, atOnce⟩, refusal, rfl⟩ :=
      submitted.closed (raised.mem_of_loggedLoad_mem found)
    refine ⟨⟨plainLoad request (.error .notPermitted) written :: (exchanges ++ before), ?_⟩,
      _, rfl⟩
    rw [List.cons_append, List.append_assoc, ← atOnce]
  · rintro ⟨call, more⟩ found other rfl
    rcases List.mem_cons.mp found with impossible | found
    · cases impossible
    · rcases List.mem_append.mp found with limit | last
      · cases raised.isLimit _ limit
      · exact submitted.kept same _ last other rfl
  · obtain ⟨code, text, answers, rfl, reported⟩ := submitted.failed same
    refine ⟨code, by rw [answersEq, answers]; rfl,
      .inr ⟨?_, text, rfl, raised.reported reported written⟩⟩
    rw [limitsEq]
    rintro ⟨cause, failed⟩
    cases raised.unique failed

/-- Every course has its outcome. -/
theorem Course.outcome {result : Except LoadError Handle}
    (course : Course request exchanges result) : Outcome request exchanges result := by
  cases course with
  | once submitted final => exact submitted.outcome final
  | limited written raised => exact raised.outcome written
  | again written raised submitted => exact submitted.outcome_again raised written

end

/-- Loading a program over system calls, whatever the system answers: the calls are answered by the
system one after the other, and what they come to is the result. -/
theorem load_outcome (system : System σ) {attacher : Attacher}
    (noNul : '\x00' ∉ attacher.license.toList) (sectionName : String) (category : Bpf.Category)
    (instructions : Bytes) :
    Load.Asks system (attacher.load (kernel system) sectionName category instructions)
      fun result exchanges =>
        Outcome (attacher.programRequest sectionName category instructions) exchanges result := by
  intro session
  obtain ⟨exchanges, exchanged, course⟩ :=
    asks_load system noNul sectionName category instructions session
  exact ⟨exchanges, exchanged, course.outcome⟩

/-! ## A program that is accepted too late -/

/-- The first load lacks permission, the second is refused for another reason, and the third, which
only asks for that reason, is accepted. -/
def acceptingLate : ScriptedSystem where
  script := ⟨100, fun kind => if kind = .loadProgram then [1, 13] else []⟩
  verifierText := []
  rings := []

/-- What all programs of the object share. -/
def gplAttacher : Attacher := ⟨⟨"tracefs"⟩, "GPL", 0⟩

/-- An attempt to load the program. -/
def lateAttempt : Except LoadError Handle × Session (Machine ScriptedSystem) :=
  gplAttacher.load (kernel ScriptedSystem.system) "xdp" .xdp []
    (.start (.start acceptingLate) .scratch)

/-- What is submitted in it. -/
def lateRequest : ProgramRequest := gplAttacher.programRequest "xdp" .xdp []

/-- The handle of the third load is closed, and the second refusal is the result. -/
theorem load_outcome_acceptingLate :
    '\x00' ∉ gplAttacher.license.toList ∧
      lateAttempt.1 = .error (.programLoad "xdp" (.system ⟨13⟩) "") ∧
      ∃ exchanges, exchanges.map Exchange.call =
          [.loadProgram (loadCall lateRequest none) (.error ⟨1⟩),
            .getMemoryLimit (.ok ()), .setMemoryLimit unlimited unlimited (.ok ()),
            .loadProgram (loadCall lateRequest none) (.error ⟨13⟩),
            .loadProgram (loadCall lateRequest (some 65536)) (.ok ⟨100⟩),
            .closeHandle ⟨100⟩] ∧
        Outcome lateRequest exchanges lateAttempt.1 := by
  have noNul : '\x00' ∉ gplAttacher.license.toList := by decide
  obtain ⟨exchanges, exchanged, outcome⟩ := load_outcome ScriptedSystem.system noNul "xdp" .xdp []
    (.start (.start acceptingLate) .scratch)
  exact ⟨noNul, by rfl, exchanges, exchanged.calls.symm, outcome⟩

end SystemKernel

end ProbeStream
