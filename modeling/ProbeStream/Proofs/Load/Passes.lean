import ProbeStream.Proofs.Load.Course

/-!
# The passes follow the plan

The first pass submits no program. The second and the third pass submit the programs of the plan in
order, each once, and stop at the first refusal: what was submitted is always a prefix of the plan,
and all of it if the load ends well (`submissions_loadImage`).

The second pass changes the bytes of its targets, and the third pass goes over the changed image.
That does not matter: each section is targeted at most once, so the second pass finds every target
as it was (`map_relocatedAttempts`), and the third pass leaves the targets out.
-/

namespace ProbeStream

namespace Load

variable {σ : Type}

/-- The first pass loads no program. -/
theorem idle_prepare (kernel : Kernel σ) (tracefs : Tracefs) (image : Elf.Image) :
    Idle (prepare kernel tracefs image) := by
  refine Runs.makes fun files => (runs_prepare kernel tracefs image).weaken ?_
  rintro result calls after ⟨_, handles, creates, _⟩
  exact creates.quiet

/-- What becomes of a step that is to submit the planned programs and adds what became of them to
`programs`. -/
def Follows (attacher : Attacher) (plan : List Submission) (programs : List LoadedProgram) :
    Except LoadError (List LoadedProgram) → List KernelCall → Prop
  | .ok after, calls => ∃ loaded, after = programs ++ loaded ∧ Loads attacher plan calls loaded
  | .error _, calls => submissions calls <+: plan.map (·.request attacher)

theorem Follows.submissions_prefix {attacher : Attacher} {plan : List Submission}
    {programs : List LoadedProgram} {result : Except LoadError (List LoadedProgram)}
    {calls : List KernelCall} (follows : Follows attacher plan programs result calls) :
    submissions calls <+: plan.map (·.request attacher) := by
  cases result with
  | error failure => exact follows
  | ok after =>
    obtain ⟨_, _, loads⟩ := follows
    exact loads.submissions_eq ▸ List.prefix_refl _

/-- The second and the third pass follow the plan of the image. -/
theorem makes_attachPrograms (kernel : Kernel σ) (tracefs : Tracefs) {image : Elf.Image}
    (once : TargetsOnce image) (unnamed : RelocationsUnnamed image) (found : Metadata) :
    Makes (attachPrograms kernel tracefs image found) fun result calls =>
      let attacher : Attacher := ⟨tracefs, found.license, found.kernelVersion⟩
      Follows attacher (planned image found.maps) [] (result.map (·.programs)) calls ∧
        ∀ loaded, result = .ok loaded →
          found = ⟨loaded.license, loaded.kernelVersion, loaded.maps⟩ := by
  refine Runs.makes fun files => (runs_attachPrograms kernel tracefs image found).weaken ?_
  intro result calls after attaches
  have plan := @map_attempts image found.maps once unnamed
  cases result with
  | ok loaded =>
    obtain ⟨same, groups⟩ := attaches
    rw [plan] at groups
    refine ⟨⟨loaded.programs, rfl, groups.loads⟩, ?_⟩
    rintro object ended
    cases ended
    exact same
  | error failure =>
    refine ⟨?_, by simp⟩
    rcases attaches with groups | ⟨rfl, _⟩
    · obtain ⟨attempted, _, _, _, _, isPrefix, submitted, _⟩ := groups.progress
      rw [plan] at isPrefix
      show submissions calls <+: _
      rw [submitted]
      exact isPrefix.map _
    · exact List.nil_prefix

/-- Section 1 is a program that refers to the map, section 3 is a program on its own, and the entry
for section 4 does not point at an instruction that loads a constant. -/
def mixedImage : Elf.Image where
  order := .little
  slots := [none,
    some ⟨1, "xdp_filter", 1, 0, loadInstruction ++ exitInstruction, []⟩,
    some ⟨2, ".relxdp_filter", Elf.typeRelocation, 1, [0], [⟨0, 0⟩]⟩,
    some ⟨3, "socket_tap", 1, 0, exitInstruction, []⟩,
    some ⟨4, "xdp_broken", 1, 0, exitInstruction, []⟩,
    some ⟨5, ".relxdp_broken", Elf.typeRelocation, 4, [0], [⟨0, 0⟩]⟩,
    some ⟨6, "maps", 1, 0, List.replicate 20 1, []⟩]
  symbols := some [⟨"table", 6, 0⟩]
  numbered := by
    intro number part found
    rcases number with _ | _ | _ | _ | _ | _ | _ | number <;> simp at found <;> simp [← found]

/-- A kernel that counts what it opens, and refuses its first program for want of permission. -/
def waryKernel : Kernel Nat where
  createMap _ count := (.ok ⟨.ofNat count⟩, count + 1)
  loadProgram _ count :=
    if count = 1 then (.error ⟨.system .notPermitted, ""⟩, 2) else (.ok ⟨.ofNat count⟩, count + 1)
  raiseMemoryLimit count := (.ok (), count)
  openEvent _ count := (.ok ⟨.ofNat count⟩, count + 1)
  enableEvent _ count := (.ok (), count)
  attachProgram _ _ count := (.ok (), count)
  closeEvent _ _ count := ((), count)

/-- Section 4 of the image, and the section with its entry. -/
def brokenProgram : Elf.Section := ⟨4, "xdp_broken", 1, 0, exitInstruction, []⟩

def brokenEntry : Elf.Section := ⟨5, ".relxdp_broken", Elf.typeRelocation, 4, [0], [⟨0, 0⟩]⟩

theorem resolved?_brokenEntry (maps : Bpf.MapTable) :
    resolved? mixedImage maps brokenEntry brokenProgram = none := rfl

end Load

end ProbeStream
