import ProbeStream.Load.Object
import ProbeStream.Proofs.Load.Protocol

/-!
# The first pass and the maps

The first pass clears the registered probes, if that is possible, and then makes nothing but calls
that create maps: one for each definition, in the order of the sections and of the definitions in
them (`definedMaps`), up to the first refusal. A malformed section ends it (`runs_prepare`).

Every section of maps starts a table of its own. The table that the pass hands on belongs to the
last one of them, and its maps are the last ones that were created (`Provisioned`).
-/

namespace ProbeStream

/-- The call that has created a map. -/
def Bpf.LiveMap.creation (map : Bpf.LiveMap) : KernelCall :=
  .createMap map.definition (.ok map.handle)

namespace Creates

variable {definitions others : List Bpf.MapDefinition} {calls more : List KernelCall}
  {handles : List Handle} {ended : Option (List Handle)}

theorem append (first : Creates definitions calls (some handles))
    (second : Creates others more ended) :
    Creates (definitions ++ others) (calls ++ more) (ended.map (handles ++ ·)) := by
  generalize outcome : some handles = first' at first
  induction first generalizing handles with
  | done =>
    cases outcome
    simpa using second
  | refused _ => cases outcome
  | @created definition _ handle _ _ _ ih =>
    obtain ⟨tail, rfl, same⟩ := Option.map_eq_some_iff.mp outcome.symm
    have rest : Creates (definition :: _) _ _ := .created handle (ih rfl)
    rw [Option.map_map] at rest
    rw [← same]
    exact rest

/-- A refusal stops a longer list of maps just as well. -/
theorem stop (creates : Creates definitions calls none) :
    Creates (definitions ++ others) calls none := by
  generalize outcome : none = ended at creates
  induction creates with
  | done => cases outcome
  | refused failure => exact .refused failure
  | created handle _ ih =>
    have ended := Option.map_eq_none_iff.mp outcome.symm
    subst ended
    exact .created handle (ih rfl)

end Creates

namespace Load

variable {σ : Type} {files : Fs.Tree}

/-! ## What the sections call for -/

/-- A section that ends the first pass. -/
def isMalformed (part : Elf.Section) : Bool :=
  part.name == "version" && part.data.length != 4 ||
    part.name == "maps" && part.data.length % Bpf.mapRecordSize != 0

/-- The maps that a section defines. -/
def definitionsIn (order : ByteOrder) (part : Elf.Section) : List Bpf.MapDefinition :=
  if part.name = "maps" then (Bpf.mapDefinitions order part.data).toOption.getD [] else []

/-- The maps that the sections in front of the first malformed one define. -/
def definedBy (order : ByteOrder) (parts : List Elf.Section) : List Bpf.MapDefinition :=
  (parts.takeWhile fun part => !isMalformed part).flatMap (definitionsIn order)

/-- The maps that the first pass is to create. -/
def definedMaps (image : Elf.Image) : List Bpf.MapDefinition := definedBy image.order image.sections

/-- The last section of maps. -/
def lastMaps? (parts : List Elf.Section) : Option Elf.Section :=
  parts.reverse.find? (·.name == "maps")

/-- The table holds the maps that a section defines, and they are the last ones that the calls
create. -/
structure MadeFrom (order : ByteOrder) (part : Elf.Section) (calls : List KernelCall)
    (maps : Bpf.MapTable) : Prop where
  definitions : maps.maps.map (·.definition) = definitionsIn order part
  created : maps.maps.map (·.creation) <:+ calls

/-- The table belongs to the last section of maps, and is empty if there is none. -/
def Provisioned (image : Elf.Image) (calls : List KernelCall) (maps : Bpf.MapTable) : Prop :=
  match lastMaps? image.sections with
  | none => maps = .empty
  | some part => MadeFrom image.order part calls maps

theorem lastMaps?_cons (part : Elf.Section) (rest : List Elf.Section) :
    lastMaps? (part :: rest) =
      (lastMaps? rest).or (if part.name == "maps" then some part else none) := by
  rw [lastMaps?, List.reverse_cons, List.find?_append, lastMaps?, List.find?_singleton]

theorem definedBy_cons_of_malformed (order : ByteOrder) {part : Elf.Section}
    (rest : List Elf.Section) (malformed : isMalformed part) :
    definedBy order (part :: rest) = [] := by
  simp [definedBy, malformed]

theorem definedBy_cons (order : ByteOrder) {part : Elf.Section} (rest : List Elf.Section)
    (wellFormed : isMalformed part = false) :
    definedBy order (part :: rest) = definitionsIn order part ++ definedBy order rest := by
  simp [definedBy, wellFormed]

theorem definedBy_eq_nil (order : ByteOrder) {parts : List Elf.Section}
    (none : lastMaps? parts = none) : definedBy order parts = [] := by
  rw [definedBy, List.flatMap_eq_nil_iff]
  intro part member
  have present : part ∈ parts.reverse :=
    List.mem_reverse.mpr ((List.takeWhile_prefix _).sublist.subset member)
  have other := List.find?_eq_none.mp none part present
  rw [definitionsIn, if_neg (by simpa using other)]

/-! ## Creating the maps of one section -/

/-- What became of maps that were to be added to a table. -/
def Adds (definitions : List Bpf.MapDefinition) (maps : Bpf.MapTable)
    (result : Except LoadError Bpf.MapTable) (calls : List KernelCall) : Prop :=
  match result with
  | .ok after => ∃ added, after.maps = maps.maps ++ added ∧
      added.map (·.definition) = definitions ∧ added.map (·.creation) = calls ∧
        Creates definitions calls (some (added.map (·.handle)))
  | .error _ => Creates definitions calls none

theorem runs_createMap (kernel : Kernel σ) (index : Nat) (definition : Bpf.MapDefinition)
    (name : Option String) (maps : Bpf.MapTable) :
    Runs files (createMap kernel index definition name maps) fun result calls after =>
      after = files ∧ Adds [definition] maps result calls := by
  refine Runs.request fun answer => Runs.require ?_ ?_
  · rintro failure rfl
    exact ⟨rfl, .refused failure⟩
  · rintro handle rfl
    refine Runs.still (still_note _ _) fun _ => ?_
    have added : Adds [definition] maps (.ok (maps.push { index, name, definition, handle }))
        [.createMap definition (.ok handle)] :=
      ⟨[{ index, name, definition, handle }], rfl, rfl, rfl, .created handle .done⟩
    dsimp only
    split
    · exact Runs.still (still_noteAll _) fun _ => Runs.pure ⟨rfl, added⟩
    · exact Runs.pure ⟨rfl, added⟩

theorem runs_createMaps (kernel : Kernel σ) (index : Nat) (definitions : List Bpf.MapDefinition)
    (names : List (Option String)) (maps : Bpf.MapTable) :
    Runs files (createMaps kernel index definitions names maps) fun result calls after =>
      after = files ∧ Adds definitions maps result calls := by
  induction definitions generalizing index names maps with
  | nil => exact Runs.pure ⟨rfl, [], by simp, rfl, rfl, .done⟩
  | cons definition rest ih =>
    refine Runs.bind (runs_createMap kernel index definition _ maps) ?_ ?_
    · rintro failure calls after ⟨rfl, refused⟩
      exact ⟨rfl, show Creates ([definition] ++ rest) calls none from refused.stop⟩
    · rintro one calls after ⟨rfl, first, grown, defined, created, creates⟩
      refine (ih (index + 1) names.tail one).weaken ?_
      rintro result more after ⟨rfl, adds⟩
      refine ⟨rfl, ?_⟩
      cases result with
      | error failure =>
        show Creates ([definition] ++ rest) (calls ++ more) none
        exact creates.append adds
      | ok all =>
        obtain ⟨others, grownMore, definedMore, createdMore, createsMore⟩ := adds
        refine ⟨first ++ others, ?_, ?_, ?_, ?_⟩
        · rw [grownMore, grown, List.append_assoc]
        · rw [List.map_append, defined, definedMore]
          rfl
        · rw [List.map_append, created, createdMore]
        · rw [List.map_append]
          exact creates.append createsMore

/-! ## One section -/

/-- What became of one section: the calls create its maps, and if it is a section of maps, the
table is now its own. -/
def Reads (order : ByteOrder) (found : Metadata) (part : Elf.Section)
    (result : Except LoadError Metadata) (calls : List KernelCall) : Prop :=
  match result with
  | .ok after => isMalformed part = false ∧
      (∃ handles, Creates (definitionsIn order part) calls (some handles)) ∧
        if part.name = "maps" then MadeFrom order part calls after.maps else after.maps = found.maps
  | .error _ => (isMalformed part ∧ calls = []) ∨
      (isMalformed part = false ∧ Creates (definitionsIn order part) calls none)

theorem runs_readMaps (kernel : Kernel σ) (image : Elf.Image) {part : Elf.Section}
    (maps : part.name = "maps") :
    Runs files (readMaps kernel image part) fun result calls after =>
      after = files ∧ match result with
        | .ok table => isMalformed part = false ∧ MadeFrom image.order part calls table ∧
            ∃ handles, Creates (definitionsIn image.order part) calls (some handles)
        | .error _ => (isMalformed part ∧ calls = []) ∨
            (isMalformed part = false ∧ Creates (definitionsIn image.order part) calls none) := by
  by_cases whole : part.data.length % Bpf.mapRecordSize = 0
  · have wellFormed : isMalformed part = false := by simp [isMalformed, maps, whole]
    have defined : definitionsIn image.order part =
        (part.data.pieces Bpf.mapRecordSize (part.data.length / Bpf.mapRecordSize)).map
          (Bpf.MapDefinition.ofBytes image.order) := by
      rw [definitionsIn, if_pos maps, Bpf.mapDefinitions, if_pos whole]
      rfl
    rw [readMaps, Bpf.mapDefinitions, if_pos whole, ← defined]
    refine Runs.require (fun _ impossible => by cases impossible) fun definitions same => ?_
    obtain rfl := Except.ok.inj same
    refine (runs_createMaps kernel 0 _ _ .empty).weaken ?_
    rintro result calls after ⟨rfl, adds⟩
    refine ⟨rfl, ?_⟩
    cases result with
    | error failure => exact .inr ⟨wellFormed, adds⟩
    | ok table =>
      obtain ⟨added, same, definitions, created, creates⟩ := adds
      obtain rfl : table.maps = added := same
      exact ⟨wellFormed, ⟨definitions, created ▸ List.suffix_refl _⟩, _, creates⟩
  · have malformed : isMalformed part := by simp [isMalformed, maps, whole]
    rw [readMaps, Bpf.mapDefinitions, if_neg whole]
    refine Runs.require (fun _ _ => ⟨rfl, .inl ⟨malformed, rfl⟩⟩) ?_
    intro definitions impossible
    cases impossible

theorem runs_readSection (kernel : Kernel σ) (image : Elf.Image) (found : Metadata)
    (part : Elf.Section) :
    Runs files (readSection kernel image found part) fun result calls after =>
      after = files ∧ Reads image.order found part result calls := by
  -- what holds of a section without maps
  have nothing (other : part.name ≠ "maps") : definitionsIn image.order part = [] :=
    if_neg other
  have kept {after : Metadata} (other : part.name ≠ "maps") (same : after.maps = found.maps)
      (wellFormed : isMalformed part = false) :
      Reads image.order found part (.ok after) [] := by
    refine ⟨wellFormed, ⟨[], ?_⟩, ?_⟩
    · rw [nothing other]
      exact .done
    · rw [if_neg other]
      exact same
  rw [readSection]
  by_cases license : part.name = "license"
  · rw [if_pos license]
    exact Runs.pure ⟨rfl, kept (by simp [license]) rfl (by simp [isMalformed, license])⟩
  rw [if_neg license]
  by_cases version : part.name = "version"
  · rw [if_pos version, readVersion]
    by_cases word : part.data.length = 4
    · rw [if_pos word]
      exact Runs.pure ⟨rfl, kept (by simp [version]) rfl (by simp [isMalformed, version, word])⟩
    · rw [if_neg word]
      exact Runs.throw ⟨rfl, .inl ⟨by simp [isMalformed, version, word], rfl⟩⟩
  rw [if_neg version]
  by_cases maps : part.name = "maps"
  · rw [if_pos maps]
    refine Runs.bind (runs_readMaps kernel image maps) (fun _ _ _ stopped => stopped) ?_
    rintro table calls middle ⟨rfl, wellFormed, made, creates⟩
    refine Runs.pure ⟨rfl, ?_⟩
    rw [List.append_nil]
    exact ⟨wellFormed, creates, (if_pos maps).symm ▸ made⟩
  · rw [if_neg maps]
    exact Runs.pure ⟨rfl, kept maps rfl (by simp [isMalformed, version, maps])⟩

/-! ## All sections -/

/-- What became of the first pass over some sections. -/
def ReadsAll (order : ByteOrder) (found : Metadata) (parts : List Elf.Section)
    (result : Except LoadError Metadata) (calls : List KernelCall) : Prop :=
  ∃ handles, Creates (definedBy order parts) calls handles ∧
    match result with
    | .ok after => handles.isSome ∧ (∀ part ∈ parts, isMalformed part = false) ∧
        match lastMaps? parts with
        | none => after.maps = found.maps
        | some part => MadeFrom order part calls after.maps
    | .error _ => handles = none ∨ ∃ part ∈ parts, isMalformed part

theorem runs_readSections (kernel : Kernel σ) (image : Elf.Image) (parts : List Elf.Section)
    (found : Metadata) :
    Runs files (readSections kernel image parts found) fun result calls after =>
      after = files ∧ ReadsAll image.order found parts result calls := by
  induction parts generalizing found with
  | nil => exact Runs.pure ⟨rfl, some [], .done, rfl, by simp, rfl⟩
  | cons part rest ih =>
    refine Runs.bind (runs_readSection kernel image found part) ?_ ?_
    · rintro failure calls after ⟨rfl, ⟨malformed, rfl⟩ | ⟨wellFormed, refused⟩⟩
      · refine ⟨rfl, some [], ?_, .inr ⟨part, List.mem_cons_self, malformed⟩⟩
        rw [definedBy_cons_of_malformed _ _ malformed]
        exact .done
      · refine ⟨rfl, none, ?_, .inl rfl⟩
        rw [definedBy_cons _ _ wellFormed]
        exact refused.stop
    · rintro middle calls after ⟨rfl, wellFormed, ⟨handles, creates⟩, table⟩
      refine (ih middle).weaken ?_
      rintro result more after ⟨rfl, others, createsMore, ended⟩
      refine ⟨rfl, others.map (handles ++ ·), ?_, ?_⟩
      · rw [definedBy_cons _ _ wellFormed]
        exact creates.append createsMore
      cases result with
      | error failure =>
        rcases ended with rfl | ⟨bad, member, malformed⟩
        · exact .inl rfl
        · exact .inr ⟨bad, List.mem_cons_of_mem part member, malformed⟩
      | ok last =>
        obtain ⟨all, good, tableAfter⟩ := ended
        refine ⟨by simpa using all, List.forall_mem_cons.mpr ⟨wellFormed, good⟩, ?_⟩
        rw [lastMaps?_cons]
        cases later : lastMaps? rest with
        | some holder =>
          rw [later] at tableAfter
          exact ⟨tableAfter.definitions,
            tableAfter.created.trans (List.suffix_append calls more)⟩
        | none =>
          -- no section that is left has maps, so nothing is created behind this one
          rw [later] at tableAfter
          rw [definedBy_eq_nil image.order later] at createsMore
          cases createsMore
          rw [List.append_nil]
          by_cases maps : part.name = "maps"
          · rw [if_pos maps] at table
            simpa [maps, show last.maps = middle.maps from tableAfter] using table
          · rw [if_neg maps] at table
            simpa [maps] using tableAfter.trans table

/-! ## The first pass -/

/-- The files once the registered probes are cleared, if that is possible. -/
def cleared (tracefs : Tracefs) (files : Fs.Tree) : Fs.Tree :=
  (tracefs.clearKprobes files).toOption.getD files

/-- The first pass comes to what reading the sections comes to, from the cleared files on. -/
theorem runs_prepare_of_reads {kernel : Kernel σ} {tracefs : Tracefs} {image : Elf.Image}
    {post : Except LoadError Metadata → List KernelCall → Fs.Tree → Prop}
    (reads : Runs (cleared tracefs files)
      (readSections kernel image image.sections ⟨"", 0, .empty⟩) post) :
    Runs files (prepare kernel tracefs image) post := by
  have metadata : Runs (cleared tracefs files) (readMetadata kernel image) post := by
    refine Runs.bind reads (fun _ _ _ stopped => stopped) ?_
    intro found calls middle holds
    have same : Runs middle (pure found : Load σ Metadata) fun result more after =>
        post result (calls ++ more) after := Runs.pure ((List.append_nil calls).symm ▸ holds)
    -- the two notes are written or not, and nothing else is done
    dsimp only
    split <;> split
    · exact Runs.still (still_note _ _) fun _ => Runs.still (still_note _ _) fun _ => same
    · exact Runs.still (still_note _ _) fun _ => same
    · exact Runs.still (still_note _ _) fun _ => same
    · exact same
  refine Runs.changeFiles ?_ ?_
  · intro failure failed
    rw [cleared, failed] at metadata
    exact Runs.still (still_note _ _) fun _ => metadata
  · intro changed done
    rw [cleared, done] at metadata
    exact metadata

/-- What the first pass does. It fails if a map is refused or a section is malformed, and only
then. -/
theorem runs_prepare (kernel : Kernel σ) (tracefs : Tracefs) (image : Elf.Image) :
    Runs files (prepare kernel tracefs image) fun result calls after =>
      after = cleared tracefs files ∧ ∃ handles, Creates (definedMaps image) calls handles ∧
        match result with
        | .ok found => handles.isSome ∧ (∀ part ∈ image.sections, isMalformed part = false) ∧
            Provisioned image calls found.maps
        | .error _ => handles = none ∨ ∃ part ∈ image.sections, isMalformed part :=
  runs_prepare_of_reads (runs_readSections kernel image image.sections _)

end Load

end ProbeStream
