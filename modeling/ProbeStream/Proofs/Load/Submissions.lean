import ProbeStream.Load.Attach
import ProbeStream.Proofs.Load.Calls

/-!
# Submitted programs

Among the calls of a load, `submissions` are the programs that it has submitted to the kernel, and
`granted` are those that the kernel has accepted, with their handles. A program that was refused
for want of permission is submitted again, with the same request; it counts once.

`Loads` says of some calls that they submit the programs of a plan in order, and that all of them
were accepted.
-/

namespace ProbeStream

/-! ## Submissions among calls -/

/-- The request that may be made again after an answer to it. -/
def repeatable (request : ProgramRequest) : Except ProgramRefusal Handle → Option ProgramRequest
  | .ok _ => none
  | .error refusal => if refusal.isPermissionDenied then some request else none

/-- The programs that some calls submit, when `denied` was refused for want of permission before:
making that request again is no new submission. -/
def submissionsAfter : (denied : Option ProgramRequest) → List KernelCall → List ProgramRequest
  | _, [] => []
  | denied, .loadProgram request answer :: rest =>
    if denied = some request then submissionsAfter none rest
    else request :: submissionsAfter (repeatable request answer) rest
  | denied, _ :: rest => submissionsAfter denied rest

/-- The programs that some calls submit, in order. -/
def submissions (calls : List KernelCall) : List ProgramRequest := submissionsAfter none calls

/-- The programs that were accepted, in order, with their handles. -/
def granted (calls : List KernelCall) : List (ProgramRequest × Handle) :=
  calls.filterMap fun
    | .loadProgram request (.ok handle) => some (request, handle)
    | _ => none

@[simp] theorem submissions_nil : submissions [] = [] := rfl

theorem submissionsAfter_append_of_quiet (denied : Option ProgramRequest) {calls : List KernelCall}
    (quiet : ∀ call ∈ calls, ¬ call.isLoad) (rest : List KernelCall) :
    submissionsAfter denied (calls ++ rest) = submissionsAfter denied rest := by
  induction calls with
  | nil => rfl
  | cons call others ih =>
    have goesOn := ih fun other member => quiet other (List.mem_cons_of_mem call member)
    cases call with
    | loadProgram request answer => exact absurd rfl (quiet _ List.mem_cons_self)
    | _ => exact goesOn

theorem submissions_of_quiet {calls : List KernelCall} (quiet : ∀ call ∈ calls, ¬ call.isLoad) :
    submissions calls = [] := by
  have none := submissionsAfter_append_of_quiet none quiet []
  rwa [List.append_nil] at none

theorem granted_append (before after : List KernelCall) :
    granted (before ++ after) = granted before ++ granted after :=
  List.filterMap_append

theorem granted_of_quiet {calls : List KernelCall} (quiet : ∀ call ∈ calls, ¬ call.isLoad) :
    granted calls = [] := by
  refine List.filterMap_eq_nil_iff.mpr ?_
  intro call member
  cases call with
  | loadProgram request answer => exact absurd rfl (quiet _ member)
  | _ => rfl

/-! ## Planned programs -/

/-- A program that is to be submitted. -/
structure Submission where
  /-- The number of its section. -/
  number : Nat
  name : String
  category : Bpf.Category
  instructions : Bytes
deriving DecidableEq, Repr

/-- What the kernel is asked for. -/
def Submission.request (attacher : Attacher) (submission : Submission) : ProgramRequest :=
  attacher.programRequest submission.name submission.category submission.instructions

/-- The calls submit the planned programs, and the kernel has accepted all of them. The programs are
what became of them, one for each. -/
structure Loads (attacher : Attacher) (plan : List Submission) (calls : List KernelCall)
    (programs : List LoadedProgram) : Prop where
  submitted : ∀ rest, submissions (calls ++ rest) =
    plan.map (·.request attacher) ++ submissions rest
  requests : (granted calls).map (·.1) = plan.map (·.request attacher)
  handles : (granted calls).map (·.2) = programs.map (·.handle)
  names : programs.map (fun program => (program.sectionName, program.category)) =
    plan.map fun submission => (submission.name, submission.category)

namespace Loads

variable {attacher : Attacher} {plan others : List Submission} {calls after : List KernelCall}
  {programs more : List LoadedProgram}

theorem nil (quiet : ∀ call ∈ calls, ¬ call.isLoad) : Loads attacher [] calls [] where
  submitted := submissionsAfter_append_of_quiet none quiet
  requests := by rw [granted_of_quiet quiet]; rfl
  handles := by rw [granted_of_quiet quiet]; rfl
  names := rfl

theorem append (first : Loads attacher plan calls programs)
    (second : Loads attacher others after more) :
    Loads attacher (plan ++ others) (calls ++ after) (programs ++ more) where
  submitted := by
    intro rest
    rw [List.append_assoc, first.submitted, second.submitted, List.map_append, List.append_assoc]
  requests := by
    rw [granted_append, List.map_append, first.requests, second.requests, List.map_append]
  handles := by
    rw [granted_append, List.map_append, first.handles, second.handles, List.map_append]
  names := by
    rw [List.map_append, first.names, second.names, List.map_append]

theorem submissions_eq (loads : Loads attacher plan calls programs) :
    submissions calls = plan.map (·.request attacher) := by
  have all := loads.submitted []
  rwa [List.append_nil, submissions_nil, List.append_nil] at all

end Loads

end ProbeStream
