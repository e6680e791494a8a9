import ProbeStream.Load.Provision
import ProbeStream.Proofs.Bpf.Relocation
import ProbeStream.Proofs.Load.Calls

/-!
# Tables of maps

A kernel is asked for one map after the other, up to the first refusal (`Answers`). If there is
none, the table has one map for each definition, at the number of the definition
(`provision_oneMapEach`).

The dispatch table is the last program array, and a name belongs to the first map that has it; both
are said by the numbers of the maps (`IsLast`, `IsFirst`), which are their places in the table.
-/

namespace ProbeStream

/-! ## Looking maps up -/

namespace Bpf.MapTable

variable {table : MapTable} {map : LiveMap} {kind : LiveMap → Bool}

/-- Every map has its place in the table as its number. -/
def Numbered (table : MapTable) : Prop :=
  ∀ index map, table.get? index = some map → map.index = index

/-- The map of the least number among those of a kind. -/
structure IsFirst (table : MapTable) (kind : LiveMap → Prop) (map : LiveMap) : Prop where
  found : table.get? map.index = some map
  fits : kind map
  least : ∀ index other, index < map.index → table.get? index = some other → ¬ kind other

/-- The map of the greatest number among those of a kind. -/
structure IsLast (table : MapTable) (kind : LiveMap → Prop) (map : LiveMap) : Prop where
  found : table.get? map.index = some map
  fits : kind map
  greatest : ∀ index other, map.index < index → table.get? index = some other → ¬ kind other

theorem find?_eq_some_iff (numbered : table.Numbered) :
    table.maps.find? kind = some map ↔ table.IsFirst (kind ·) map := by
  rw [List.find?_eq_some_iff_getElem]
  constructor
  · rintro ⟨fits, index, inside, found, others⟩
    have here : table.get? index = some map := List.getElem?_eq_some_iff.mpr ⟨inside, found⟩
    obtain rfl := numbered index map here
    refine ⟨here, fits, fun index other less there => ?_⟩
    obtain ⟨_, rfl⟩ := List.getElem?_eq_some_iff.mp there
    simpa using others index less
  · rintro ⟨here, fits, least⟩
    obtain ⟨inside, found⟩ := List.getElem?_eq_some_iff.mp here
    refine ⟨fits, map.index, inside, found, fun index less => ?_⟩
    simpa using least index _ less (List.getElem?_eq_getElem _)

theorem find?_reverse_eq_some_iff (numbered : table.Numbered) :
    table.maps.reverse.find? kind = some map ↔ table.IsLast (kind ·) map := by
  rw [find?_reverse_eq_some_iff_getElem?]
  constructor
  · rintro ⟨fits, place, here, others⟩
    obtain rfl := numbered place map here
    exact ⟨here, fits, others⟩
  · rintro ⟨here, fits, greatest⟩
    exact ⟨fits, map.index, here, greatest⟩

theorem byName?_eq_some_iff (numbered : table.Numbered) {name : String} :
    table.byName? name = some map ↔ table.IsFirst (·.name = some name) map := by
  rw [byName?, find?_eq_some_iff numbered]
  simp only [beq_iff_eq]

theorem byName?_eq_none_iff {name : String} :
    table.byName? name = none ↔ ∀ map ∈ table.maps, map.name ≠ some name := by
  simp [byName?]

/-! ### The dispatch table -/

/-- The last program array of a list. -/
def lastProgArray? (maps : List LiveMap) : Option LiveMap :=
  maps.reverse.find? (·.definition.type == .progArray)

/-- The table keeps the number of the last program array. -/
def Dispatches (table : MapTable) : Prop :=
  table.dispatch = (lastProgArray? table.maps).map LiveMap.index

theorem Dispatches.push (dispatches : table.Dispatches) (map : LiveMap) :
    (table.push map).Dispatches := by
  rw [Dispatches, maps_push, lastProgArray?, List.reverse_concat]
  by_cases array : map.definition.type = .progArray
  · rw [List.find?_cons_of_pos (by simpa using array)]
    exact if_pos array
  · rw [List.find?_cons_of_neg (by simpa using array)]
    exact (if_neg array).trans dispatches

/-- All maps of a list, added one after the other. -/
def pushAll (table : MapTable) (maps : List LiveMap) : MapTable := maps.foldl push table

theorem maps_pushAll (table : MapTable) (maps : List LiveMap) :
    (table.pushAll maps).maps = table.maps ++ maps := by
  induction maps generalizing table with
  | nil => exact (List.append_nil _).symm
  | cons map rest ih => exact (ih (table.push map)).trans (List.append_assoc ..)

theorem Dispatches.pushAll (dispatches : table.Dispatches) (maps : List LiveMap) :
    (table.pushAll maps).Dispatches := by
  induction maps generalizing table with
  | nil => exact dispatches
  | cons map rest ih => exact ih (dispatches.push map)

theorem Dispatches.progArray?_eq (dispatches : table.Dispatches) (numbered : table.Numbered) :
    table.progArray? = lastProgArray? table.maps := by
  rw [progArray?, dispatches]
  cases found : lastProgArray? table.maps with
  | none => rfl
  | some map =>
    have present : map ∈ table.maps := List.mem_reverse.mp (List.mem_of_find?_eq_some found)
    obtain ⟨index, here⟩ := List.getElem?_of_mem present
    rw [Option.map_some, Option.bind_some, numbered index map here]
    exact here

theorem Dispatches.progArray?_eq_some_iff (dispatches : table.Dispatches)
    (numbered : table.Numbered) :
    table.progArray? = some map ↔ table.IsLast (·.definition.type = .progArray) map := by
  rw [dispatches.progArray?_eq numbered, lastProgArray?, find?_reverse_eq_some_iff numbered]
  simp only [beq_iff_eq]

theorem Dispatches.progArray?_eq_none_iff (dispatches : table.Dispatches)
    (numbered : table.Numbered) :
    table.progArray? = none ↔ ∀ map ∈ table.maps, map.definition.type ≠ .progArray := by
  rw [dispatches.progArray?_eq numbered]
  simp [lastProgArray?]

end Bpf.MapTable

/-- The kernel creates every map that it is asked for. -/
def Kernel.GrantsMaps {σ : Type} (kernel : Kernel σ) : Prop :=
  ∀ definition state, ∃ handle after, kernel.createMap definition state = (.ok handle, after)

namespace Load

variable {σ : Type} {kernel : Kernel σ} {session : Session σ} {calls : List KernelCall}

/-! ## Asking for maps -/

/-- Asked for one map after the other, the kernel gives these answers and goes from one state to
the other. -/
inductive Answers (kernel : Kernel σ) : σ → List KernelCall → σ → Prop
  | nil {state : σ} : Answers kernel state [] state
  | cons {state middle last : σ} {definition : Bpf.MapDefinition}
      {answer : Except IoError Handle} {calls : List KernelCall} :
      kernel.createMap definition state = (answer, middle) → Answers kernel middle calls last →
      Answers kernel state (.createMap definition answer :: calls) last

/-- The calls that create maps with these handles. -/
def creations (definitions : List Bpf.MapDefinition) (handles : List Handle) : List KernelCall :=
  List.zipWith (fun definition handle => .createMap definition (.ok handle)) definitions handles

/-- The maps of definitions from number `index` on, with these handles. -/
def liveMaps (index : Nat) (definitions : List Bpf.MapDefinition) (names : List (Option String))
    (handles : List Handle) : List Bpf.LiveMap :=
  (definitions.zip handles).mapIdx fun place defined =>
    ⟨index + place, names[place]?.join, defined.1, defined.2⟩

theorem getElem?_creations {definitions : List Bpf.MapDefinition} {handles : List Handle}
    {place : Nat} {definition : Bpf.MapDefinition} {handle : Handle}
    (defined : definitions[place]? = some definition) (granted : handles[place]? = some handle) :
    (creations definitions handles)[place]? = some (.createMap definition (.ok handle)) := by
  rw [creations, List.getElem?_zipWith, defined, granted]

theorem liveMaps_cons (index : Nat) (definition : Bpf.MapDefinition)
    (rest : List Bpf.MapDefinition) (names : List (Option String)) (handle : Handle)
    (handles : List Handle) :
    liveMaps index (definition :: rest) names (handle :: handles) =
      ⟨index, names.head?.join, definition, handle⟩ ::
        liveMaps (index + 1) rest names.tail handles := by
  simp [liveMaps, Nat.add_assoc, Nat.add_comm 1, List.head?_eq_getElem?]

theorem getElem?_liveMaps {definitions : List Bpf.MapDefinition} {handles : List Handle}
    {place : Nat} {definition : Bpf.MapDefinition} {handle : Handle}
    (defined : definitions[place]? = some definition) (granted : handles[place]? = some handle)
    (index : Nat) (names : List (Option String)) :
    (liveMaps index definitions names handles)[place]? =
      some ⟨index + place, names[place]?.join, definition, handle⟩ := by
  have together : (definitions.zip handles)[place]? = some (definition, handle) :=
    List.getElem?_zip_eq_some.mpr ⟨defined, granted⟩
  rw [liveMaps, List.getElem?_mapIdx, together]
  rfl

/-- The session when the kernel has answered a request for a map and is in this state. -/
def answered (session : Session σ) (state : σ) (definition : Bpf.MapDefinition)
    (answer : Except IoError Handle) : Session σ :=
  { session with
    kernel := state
    calls := session.calls ++ [.createMap definition answer] }

theorem request_createMap {definition : Bpf.MapDefinition} {answer : Except IoError Handle}
    {state : σ} (asked : kernel.createMap definition session.kernel = (answer, state)) :
    request (kernel.createMap definition) (.createMap definition) session =
      (.ok answer, answered session state definition answer) := by
  rw [request, asked]
  rfl

theorem createMap_of_ok {definition : Bpf.MapDefinition} {handle : Handle} {state : σ}
    (granted : kernel.createMap definition session.kernel = (.ok handle, state)) (index : Nat)
    (name : Option String) (maps : Bpf.MapTable) :
    ∃ log, createMap kernel index definition name maps session =
      (.ok (maps.push { index, name, definition, handle }),
        { answered session state definition (.ok handle) with log }) := by
  rw [createMap, bind_of_ok (request_createMap granted)]
  by_cases array : definition.type = .progArray
  · simp only [array, if_true]
    exact ⟨_, rfl⟩
  · simp only [array, if_false]
    exact ⟨_, rfl⟩

theorem createMap_of_error {definition : Bpf.MapDefinition} {cause : IoError} {state : σ}
    (refused : kernel.createMap definition session.kernel = (.error cause, state)) (index : Nat)
    (name : Option String) (maps : Bpf.MapTable) :
    createMap kernel index definition name maps session =
      (.error (refusal index name cause), answered session state definition (.error cause)) := by
  rw [createMap, bind_of_ok (request_createMap refused)]
  rfl

/-- What becomes of a table to which the maps of some definitions are added, from number `index`
on, and the calls for it. -/
def Grows (index : Nat) (definitions : List Bpf.MapDefinition) (names : List (Option String))
    (maps : Bpf.MapTable) (calls : List KernelCall) : Except LoadError Bpf.MapTable → Prop
  | .ok after => ∃ handles, handles.length = definitions.length ∧
      calls = creations definitions handles ∧
        after = maps.pushAll (liveMaps index definitions names handles)
  | .error failure => ∃ before definition rest handles cause,
      definitions = before ++ definition :: rest ∧ handles.length = before.length ∧
        calls = creations before handles ++ [.createMap definition (.error cause)] ∧
          failure = refusal (index + before.length) names[before.length]?.join cause

/-- A map that was created is the first one of those that are added. -/
theorem Grows.cons {index : Nat} {definition : Bpf.MapDefinition} {rest : List Bpf.MapDefinition}
    {names : List (Option String)} {maps : Bpf.MapTable} {handle : Handle}
    {result : Except LoadError Bpf.MapTable}
    (grows : Grows (index + 1) rest names.tail
      (maps.push ⟨index, names.head?.join, definition, handle⟩) calls result) :
    Grows index (definition :: rest) names maps (.createMap definition (.ok handle) :: calls)
      result := by
  cases result with
  | ok after =>
    obtain ⟨handles, length, rfl, grown⟩ := grows
    refine ⟨handle :: handles, congrArg (· + 1) length, rfl, ?_⟩
    rw [grown, liveMaps_cons]
    rfl
  | error failure =>
    obtain ⟨before, refused, others, handles, cause, rfl, length, rfl, rfl⟩ := grows
    refine ⟨definition :: before, refused, others, handle :: handles, cause, rfl,
      congrArg (· + 1) length, rfl, ?_⟩
    rw [List.length_cons, Nat.add_assoc, Nat.add_comm 1, List.getElem?_tail]

theorem createMaps_grows (kernel : Kernel σ) (index : Nat) (definitions : List Bpf.MapDefinition)
    (names : List (Option String)) (maps : Bpf.MapTable) (session : Session σ) :
    let outcome := createMaps kernel index definitions names maps session
    ∃ calls, outcome.2.calls = session.calls ++ calls ∧
      Answers kernel session.kernel calls outcome.2.kernel ∧
      Grows index definitions names maps calls outcome.1 := by
  induction definitions generalizing index names maps session with
  | nil => exact ⟨[], (List.append_nil _).symm, .nil, [], rfl, rfl, rfl⟩
  | cons definition rest ih =>
    intro outcome
    rcases asked : kernel.createMap definition session.kernel with ⟨cause | handle, state⟩
    · have stopped : outcome = (.error (refusal index names.head?.join cause),
          answered session state definition (.error cause)) :=
        bind_of_error (createMap_of_error asked index _ maps) _
      rw [stopped]
      refine ⟨_, rfl, .cons asked .nil, [], definition, rest, [], cause, rfl, rfl, rfl, ?_⟩
      rw [List.head?_eq_getElem?]
      rfl
    · obtain ⟨log, created⟩ := createMap_of_ok asked index names.head?.join maps
      have goesOn : outcome = createMaps kernel (index + 1) rest names.tail _ _ :=
        bind_of_ok created _
      rw [goesOn]
      obtain ⟨calls, added, answers, grows⟩ := ih (index + 1) names.tail
        (maps.push ⟨index, names.head?.join, definition, handle⟩)
        { answered session state definition (.ok handle) with log }
      refine ⟨.createMap definition (.ok handle) :: calls, ?_, .cons asked answers, ?_⟩
      · rw [added]
        exact List.append_assoc _ _ _
      · exact grows.cons

/-! ## Creating all maps -/

/-- The kernel has refused the map of this number, after it had granted those in front of it. -/
structure RefusedAt (definitions : List Bpf.MapDefinition) (names : List (Option String))
    (calls : List KernelCall) (number : Nat) (failure : LoadError) : Prop where
  count : calls.length = number + 1
  granted : ∀ index < number, ∃ definition handle, definitions[index]? = some definition ∧
    calls[index]? = some (.createMap definition (.ok handle))
  refused : ∃ definition cause, definitions[number]? = some definition ∧
    calls[number]? = some (.createMap definition (.error cause)) ∧
    let label := names[number]?.join.getD "unnamed"
    failure = .resource s!"failed to create map {number} ({label})" cause

/-- The kernel has granted all maps, and the table has one for each definition: at its number, with
the name of that number if there is one, and with the handle from the call of that number. -/
structure OneMapEach (definitions : List Bpf.MapDefinition) (names : List (Option String))
    (calls : List KernelCall) (table : Bpf.MapTable) : Prop where
  count : calls.length = definitions.length
  size : table.size = definitions.length
  entry : ∀ index definition, definitions[index]? = some definition → ∃ handle,
    calls[index]? = some (.createMap definition (.ok handle)) ∧
      table.get? index = some ⟨index, names[index]?.join, definition, handle⟩

/-- No two maps were created with one handle. -/
def DistinctHandles (calls : List KernelCall) : Prop :=
  ∀ (index other : Nat) (definition another : Bpf.MapDefinition) (handle : Handle),
    calls[index]? = some (.createMap definition (.ok handle)) →
    calls[other]? = some (.createMap another (.ok handle)) → index = other

section

variable {definitions : List Bpf.MapDefinition} {names : List (Option String)}
  {table : Bpf.MapTable}

theorem OneMapEach.entry_of_get? (each : OneMapEach definitions names calls table) {index : Nat}
    {map : Bpf.LiveMap} (found : table.get? index = some map) :
    map.index = index ∧ map.name = names[index]?.join ∧ definitions[index]? = some map.definition ∧
      calls[index]? = some (.createMap map.definition (.ok map.handle)) := by
  have inside : index < definitions.length := each.size ▸ (List.getElem?_eq_some_iff.mp found).1
  obtain ⟨handle, created, here⟩ := each.entry index _ (List.getElem?_eq_getElem inside)
  obtain rfl := Option.some.inj (found.symm.trans here)
  exact ⟨rfl, rfl, List.getElem?_eq_getElem inside, created⟩

theorem OneMapEach.numbered (each : OneMapEach definitions names calls table) : table.Numbered :=
  fun _ _ found => (each.entry_of_get? found).1

theorem oneMapEach_of_grows (grows : Grows 0 definitions names .empty calls (.ok table)) :
    OneMapEach definitions names calls table := by
  obtain ⟨handles, length, rfl, grown⟩ := grows
  have maps : table.maps = liveMaps 0 definitions names handles :=
    grown ▸ Bpf.MapTable.maps_pushAll .empty _
  refine ⟨by simp [creations, length], by simp [Bpf.MapTable.size, maps, liveMaps, length], ?_⟩
  intro index definition defined
  have inside : index < handles.length := length ▸ (List.getElem?_eq_some_iff.mp defined).1
  have granted := List.getElem?_eq_getElem inside
  refine ⟨_, getElem?_creations defined granted, ?_⟩
  rw [Bpf.MapTable.get?, maps, getElem?_liveMaps defined granted, Nat.zero_add]

theorem dispatches_of_grows (grows : Grows 0 definitions names .empty calls (.ok table)) :
    table.Dispatches := by
  obtain ⟨handles, length, -, rfl⟩ := grows
  have none : Bpf.MapTable.Dispatches .empty := rfl
  exact none.pushAll _

theorem refusedAt_of_grows {failure : LoadError}
    (grows : Grows 0 definitions names .empty calls (.error failure)) :
    ∃ number, RefusedAt definitions names calls number failure := by
  obtain ⟨before, definition, rest, handles, cause, rfl, length, rfl, rfl⟩ := grows
  have count : (creations before handles).length = before.length := by simp [creations, length]
  refine ⟨before.length, by simp [count], fun index less => ?_, definition, cause, by simp, ?_, ?_⟩
  · have granted := List.getElem?_eq_getElem (length ▸ less : index < handles.length)
    have defined := List.getElem?_eq_getElem less
    refine ⟨before[index], handles[index], (List.getElem?_append_left less).trans defined, ?_⟩
    rw [List.getElem?_append_left (count ▸ less)]
    exact getElem?_creations defined granted
  · rw [← count, List.getElem?_concat_length]
  · rw [Nat.zero_add]
    rfl

theorem exists_handle_of_answers (grants : kernel.GrantsMaps) {state after : σ}
    {calls : List KernelCall} (answers : Answers kernel state calls after)
    {definition : Bpf.MapDefinition} {answer : Except IoError Handle}
    (member : .createMap definition answer ∈ calls) : ∃ handle, answer = .ok handle := by
  induction answers with
  | nil => cases member
  | @cons state _ _ asked _ _ answered _ ih =>
    rcases List.mem_cons.mp member with same | later
    · cases same
      obtain ⟨handle, _, granted⟩ := grants definition state
      exact ⟨handle, congrArg Prod.fst (answered.symm.trans granted)⟩
    · exact ih later

/-- A kernel that creates every map makes a table with a map for each definition. -/
theorem exists_oneMapEach (grants : kernel.GrantsMaps) (definitions : List Bpf.MapDefinition)
    (names : List (Option String)) (session : Session σ) :
    let outcome := provision kernel definitions names session
    ∃ calls table, outcome.1 = .ok table ∧ outcome.2.calls = session.calls ++ calls ∧
      OneMapEach definitions names calls table := by
  intro outcome
  obtain ⟨calls, added, answers, grows⟩ :=
    createMaps_grows kernel 0 definitions names .empty session
  rcases ended : outcome.1 with failure | table
  · obtain ⟨number, refused⟩ := refusedAt_of_grows (show Grows _ _ _ _ _ (.error failure) from
      ended ▸ grows)
    obtain ⟨definition, cause, -, call, -⟩ := refused.refused
    obtain ⟨_, impossible⟩ := exists_handle_of_answers grants answers (List.mem_of_getElem? call)
    cases impossible
  · exact ⟨calls, table, rfl, added, oneMapEach_of_grows (ended ▸ grows)⟩

end

/-- Whatever the definitions, the names and the kernel: the kernel is asked for the maps of the
definitions in order, and its answers are recorded. Either it refuses one, and the complaint is
about that one and nothing more was asked; or the table has one map for each definition, the
dispatch table is the program array of the greatest number, a name belongs to the map of the least
number that has it, and different maps have different handles if all handles are different. -/
theorem provision_oneMapEach (kernel : Kernel σ) (definitions : List Bpf.MapDefinition)
    (names : List (Option String)) (session : Session σ) :
    let outcome := provision kernel definitions names session
    ∃ calls, outcome.2.calls = session.calls ++ calls ∧
      Answers kernel session.kernel calls outcome.2.kernel ∧
      match outcome.1 with
      | .error failure => ∃ number, RefusedAt definitions names calls number failure
      | .ok table => OneMapEach definitions names calls table ∧
          (∀ map, table.progArray? = some map ↔
            table.IsLast (·.definition.type = .progArray) map) ∧
          (table.progArray? = none ↔ ∀ map ∈ table.maps, map.definition.type ≠ .progArray) ∧
          (∀ name map, table.byName? name = some map ↔ table.IsFirst (·.name = some name) map) ∧
          (∀ name, table.byName? name = none ↔ ∀ map ∈ table.maps, map.name ≠ some name) ∧
          (DistinctHandles calls → ∀ index other map another, table.get? index = some map →
            table.get? other = some another → map.handle = another.handle → index = other) := by
  intro outcome
  obtain ⟨calls, added, answers, grows⟩ :=
    createMaps_grows kernel 0 definitions names .empty session
  refine ⟨calls, added, answers, ?_⟩
  rcases ended : outcome.1 with failure | table
  · exact refusedAt_of_grows (ended ▸ grows)
  · have grows : Grows 0 definitions names .empty calls (.ok table) := ended ▸ grows
    have each := oneMapEach_of_grows grows
    have dispatches := dispatches_of_grows grows
    refine ⟨each, fun _ => dispatches.progArray?_eq_some_iff each.numbered,
      dispatches.progArray?_eq_none_iff each.numbered,
      fun _ _ => Bpf.MapTable.byName?_eq_some_iff each.numbered,
      fun _ => Bpf.MapTable.byName?_eq_none_iff, ?_⟩
    intro distinct index other map another found foundOther same
    obtain ⟨-, -, -, created⟩ := each.entry_of_get? found
    obtain ⟨-, -, -, createdOther⟩ := each.entry_of_get? foundOther
    exact distinct index other _ _ _ created (same ▸ createdOther)

end Load

end ProbeStream
