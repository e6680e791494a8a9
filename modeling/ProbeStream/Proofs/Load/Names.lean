import ProbeStream.Proofs.Load.Course
import ProbeStream.Proofs.Load.Tables

/-!
# Maps by name and by reference

A map has the name of the last symbol that points into its record (`getElem?_mapNames`), and a
name belongs to the first map that has it. A reference to a symbol goes to the map in whose record
the symbol points, whatever its name is.

So looking up the name of a symbol and resolving a reference to it give the same map if the symbol
is the last one for its record and no record in front of it has a symbol of the same name
(`byName_eq_reference`).
-/

namespace ProbeStream

/-! ## Names -/

namespace Bpf

variable {symbols : List Elf.Symbol} {holder count index : Nat}

/-- The symbol gives its name to the map of this number, unless a later symbol does. -/
def NamesMap (holder index : Nat) (symbol : Elf.Symbol) : Prop :=
  (symbol.sectionNumber = holder ∧ symbol.name ≠ "") ∧ mapIndex symbol = index

instance (holder index : Nat) : DecidablePred (NamesMap holder index) :=
  fun _ => inferInstanceAs (Decidable (_ ∧ _))

/-- The last symbol that gives its name to a map. -/
def lastNaming? (symbols : List Elf.Symbol) (holder index : Nat) : Option Elf.Symbol :=
  symbols.reverse.find? (NamesMap holder index ·)

theorem lastNaming?_concat (symbols : List Elf.Symbol) (symbol : Elf.Symbol)
    (holder index : Nat) :
    lastNaming? (symbols ++ [symbol]) holder index =
      if NamesMap holder index symbol then some symbol else lastNaming? symbols holder index := by
  rw [lastNaming?, List.reverse_append, List.reverse_singleton, List.singleton_append,
    List.find?_cons, lastNaming?]
  by_cases names : NamesMap holder index symbol <;> simp [names]

theorem mapNames_concat (symbols : List Elf.Symbol) (symbol : Elf.Symbol) (holder count : Nat) :
    mapNames (symbols ++ [symbol]) holder count =
      nameMap holder (mapNames symbols holder count) symbol := by
  rw [mapNames, List.foldl_concat, mapNames]

theorem getElem?_nameMap (holder : Nat) (names : List (Option String)) (symbol : Elf.Symbol)
    (inside : index < names.length) :
    (nameMap holder names symbol)[index]? =
      if NamesMap holder index symbol then some (some symbol.name) else names[index]? := by
  rw [nameMap]
  by_cases named : symbol.sectionNumber = holder ∧ symbol.name ≠ ""
  · rw [if_pos named]
    by_cases here : mapIndex symbol = index
    · rw [if_pos ⟨named, here⟩, here, List.getElem?_set_self inside]
    · rw [if_neg fun names => here names.2, List.getElem?_set_ne here]
  · rw [if_neg named, if_neg fun names => named names.1]

theorem length_mapNames (symbols : List Elf.Symbol) (holder count : Nat) :
    (mapNames symbols holder count).length = count := by
  induction symbols using List.reverseRecOn with
  | nil => exact List.length_replicate
  | append_singleton earlier symbol ih =>
    rw [mapNames_concat, nameMap]
    split
    · rw [List.length_set, ih]
    · exact ih

/-- A map has the name of the last symbol that names it. -/
theorem getElem?_mapNames (symbols : List Elf.Symbol) (holder : Nat) (inside : index < count) :
    (mapNames symbols holder count)[index]? =
      some ((lastNaming? symbols holder index).map (·.name)) := by
  induction symbols using List.reverseRecOn with
  | nil =>
    rw [mapNames, List.foldl_nil, List.getElem?_replicate, if_pos inside]
    rfl
  | append_singleton earlier symbol ih =>
    have within : index < (mapNames earlier holder count).length := by rwa [length_mapNames]
    rw [mapNames_concat, getElem?_nameMap _ _ _ within, ih, lastNaming?_concat]
    split <;> rfl

/-- Symbols of other sections play no part. -/
theorem mapNames_filter (symbols : List Elf.Symbol) (holder count : Nat) :
    mapNames (symbols.filter (·.sectionNumber == holder)) holder count =
      mapNames symbols holder count := by
  induction symbols using List.reverseRecOn with
  | nil => rfl
  | append_singleton earlier symbol ih =>
    rw [List.filter_append, mapNames_concat, ← ih]
    by_cases held : symbol.sectionNumber = holder
    · simp [held, mapNames_concat]
    · simp [held, nameMap]

/-! ## Symbols and their maps -/

/-- The map in whose record the symbol at this place points has the symbol's name, and no map in
front of it can have it: the symbol is the last one that names this map, and no symbol of the same
name points into a record in front of it. -/
structure StandsFor (symbols : List Elf.Symbol) (holder count place : Nat) (symbol : Elf.Symbol) :
    Prop where
  found : symbols[place]? = some symbol
  held : symbol.sectionNumber = holder
  named : symbol.name ≠ ""
  inside : mapIndex symbol < count
  last : ∀ later other, place < later → symbols[later]? = some other →
    other.sectionNumber = holder → other.name ≠ "" → mapIndex other ≠ mapIndex symbol
  least : ∀ other ∈ symbols, other.sectionNumber = holder → other.name = symbol.name →
    mapIndex symbol ≤ mapIndex other

theorem StandsFor.lastNaming? {place : Nat} {symbol : Elf.Symbol}
    (stands : StandsFor symbols holder count place symbol) :
    lastNaming? symbols holder (mapIndex symbol) = some symbol := by
  refine find?_reverse_eq_some_iff_getElem?.mpr ⟨decide_eq_true ⟨⟨stands.held, stands.named⟩, rfl⟩,
    place, stands.found, fun later other behind there names => ?_⟩
  obtain ⟨⟨held, named⟩, same⟩ := of_decide_eq_true names
  exact stands.last later other behind there held named same

/-- The entry is for an instruction of the program that loads a constant. -/
def PointsAtLoad (program : Bytes) (entry : Elf.Relocation) : Prop :=
  entry.offset.toNat / instructionSize < program.length / instructionSize ∧
    program[entry.offset.toNat / instructionSize * instructionSize]? = some loadConstant

/-- Resolving the entry writes the handle of this map into its instruction, alone or together with
other entries, if none of those behind it is for the same instruction. -/
def WritesHandle (order : ByteOrder) (program : Bytes) (symbols : List Elf.Symbol)
    (maps : MapTable) (entry : Elf.Relocation) (handle : Handle) : Prop :=
  let instruction := entry.offset.toNat / instructionSize
  (∃ data, relocate order program [entry] symbols maps = .ok (data, [⟨instruction, handle⟩]) ∧
    Carries order data instruction handle) ∧
  ∀ entries data patches, relocate order program entries symbols maps = .ok (data, patches) →
    lastFor? entries instruction = some entry → Carries order data instruction handle

theorem writesHandle_of_found {maps : MapTable} {map : LiveMap} {symbol : Elf.Symbol}
    {program : Bytes} {entry : Elf.Relocation} (order : ByteOrder)
    (symbolFound : symbols[entry.symbol]? = some symbol)
    (mapFound : maps.get? (mapIndex symbol) = some map) (points : PointsAtLoad program entry) :
    WritesHandle order program symbols maps entry map.handle := by
  have carries (entries : List Elf.Relocation) (data : Bytes) (patches : List Patch)
      (resolved : relocate order program entries symbols maps = .ok (data, patches))
      (last : lastFor? entries (entry.offset.toNat / instructionSize) = some entry) :
      Carries order data (entry.offset.toNat / instructionSize) map.handle := by
    have rewritten := (rewritten_of_relocate resolved).2.2 (entry.offset.toNat / instructionSize)
    rw [Rewritten, last] at rewritten
    obtain ⟨other, another, otherFound, anotherFound, carries⟩ := rewritten
    obtain rfl := Option.some.inj (symbolFound.symm.trans otherFound)
    obtain rfl := Option.some.inj (mapFound.symm.trans anotherFound)
    exact carries
  have good : resolveEntry program symbols maps entry =
      .ok ⟨entry.offset.toNat / instructionSize, map.handle⟩ :=
    resolveEntry_eq_ok_iff.mpr
      ⟨points.1, rfl, points.2, symbol, map, symbolFound, mapFound, rfl⟩
  have alone : ∃ data, relocate order program [entry] symbols maps =
      .ok (data, [⟨entry.offset.toNat / instructionSize, map.handle⟩]) := by
    rw [relocate, resolveEntries, good]
    exact ⟨_, rfl⟩
  obtain ⟨data, resolved⟩ := alone
  refine ⟨⟨data, resolved, carries _ _ _ resolved ?_⟩, carries⟩
  exact lastFor?_eq_some_iff.mpr ⟨rfl, [], [], rfl, by simp⟩

end Bpf

/-! ## Names and references -/

namespace Load

variable {σ : Type}

/-- The table with the names of the symbols of a section, made by a kernel that creates every map.
Take a symbol of the section, the last one that names the map in whose record it points, and let no
symbol of the same name point into a record in front of it. Then looking up its name gives this map,
and resolving an entry for it writes the handle of this map.

All names in the table are names of symbols of the section, each one of the last symbol that points
into the map's record, and symbols of other sections play no part. -/
theorem byName_eq_reference {kernel : Kernel σ} (grants : kernel.GrantsMaps)
    (symbols : List Elf.Symbol) (holder : Nat) (definitions : List Bpf.MapDefinition)
    (session : Session σ) :
    let names := Bpf.mapNames symbols holder definitions.length
    let outcome := provision kernel definitions names session
    ∃ calls table, outcome.1 = .ok table ∧ outcome.2.calls = session.calls ++ calls ∧
      OneMapEach definitions names calls table ∧
      (∀ place symbol, Bpf.StandsFor symbols holder definitions.length place symbol →
        ∃ map, table.get? (Bpf.mapIndex symbol) = some map ∧
          table.byName? symbol.name = some map ∧
          ∀ order program entry, entry.symbol = place → Bpf.PointsAtLoad program entry →
            Bpf.WritesHandle order program symbols table entry map.handle) ∧
      (∀ index map name, table.get? index = some map → map.name = some name →
        ∃ before symbol after, symbols = before ++ symbol :: after ∧
          Bpf.NamesMap holder index symbol ∧ symbol.name = name ∧
          ∀ later ∈ after, ¬ Bpf.NamesMap holder index later) ∧
      names = Bpf.mapNames (symbols.filter (·.sectionNumber == holder)) holder
        definitions.length := by
  intro names outcome
  obtain ⟨calls, table, made, added, each⟩ := exists_oneMapEach grants definitions names session
  have named {index : Nat} {map : Bpf.LiveMap} (found : table.get? index = some map) :
      map.name = (Bpf.lastNaming? symbols holder index).map (·.name) := by
    have inside : index < definitions.length := each.size ▸ (List.getElem?_eq_some_iff.mp found).1
    rw [(each.entry_of_get? found).2.1, Bpf.getElem?_mapNames _ _ inside, Option.join_some]
  refine ⟨calls, table, made, added, each, ?_, ?_, (Bpf.mapNames_filter _ _ _).symm⟩
  · intro place symbol stands
    obtain ⟨handle, -, found⟩ := each.entry _ _ (List.getElem?_eq_getElem stands.inside)
    refine ⟨_, found, (Bpf.MapTable.byName?_eq_some_iff each.numbered).mpr ⟨found, ?_, ?_⟩, ?_⟩
    · rw [named found, stands.lastNaming?]
      rfl
    · intro index other less there same
      rw [named there] at same
      obtain ⟨another, last, sameName⟩ := Option.map_eq_some_iff.mp same
      obtain ⟨naming, before, after, split, -⟩ := Bpf.find?_reverse_eq_some_iff.mp last
      obtain ⟨⟨held, -⟩, here⟩ := of_decide_eq_true naming
      have notBefore := stands.least another (by simp [split]) held sameName
      rw [here] at notBefore
      exact Nat.not_lt.mpr notBefore less
    · rintro order program entry rfl points
      exact Bpf.writesHandle_of_found order stands.found found points
  · intro index map name found same
    rw [named found] at same
    obtain ⟨symbol, last, rfl⟩ := Option.map_eq_some_iff.mp same
    obtain ⟨naming, before, after, split, others⟩ := Bpf.find?_reverse_eq_some_iff.mp last
    exact ⟨before, symbol, after, split, of_decide_eq_true naming, rfl,
      fun later member naming => others later member (decide_eq_true naming)⟩

/-! ### Several symbols for one map -/

/-- The third symbol stands for the second map of section 1, though it does not point to the
beginning of the record: the one in front of it comes too early, the next one has no name, the last
one points behind all records, and the first one is of another section. -/
def aliases : List Elf.Symbol :=
  [⟨"flows", 2, 0⟩, ⟨"old", 1, 20⟩, ⟨"flows", 1, 24⟩, ⟨"", 1, 20⟩, ⟨"flows", 1, 60⟩]

/-- Two maps. -/
def twoDefinitions : List Bpf.MapDefinition := [⟨.progArray, 4, 4, 8, 0⟩, ⟨.hash, 4, 8, 64, 0⟩]

/-- The second map, as a kernel makes it that counts from 7 on. -/
def flows : Bpf.LiveMap := ⟨1, some "flows", ⟨.hash, 4, 8, 64, 0⟩, ⟨8⟩⟩

theorem standsFor_aliases : Bpf.StandsFor aliases 1 2 2 ⟨"flows", 1, 24⟩ where
  found := rfl
  held := rfl
  named := by decide
  inside := by decide
  last := by
    intro later other behind found held named
    rcases later with _ | _ | _ | _ | _ | later <;> cases found
    · omega
    · omega
    · omega
    · exact absurd rfl named
    · decide
  least := by decide

theorem byName_eq_reference_aliases :
    willingKernel.GrantsMaps ∧ Bpf.StandsFor aliases 1 2 2 ⟨"flows", 1, 24⟩ ∧
      Bpf.PointsAtLoad loadInstruction ⟨0, 2⟩ ∧
      ∃ table, (provision willingKernel twoDefinitions (Bpf.mapNames aliases 1 2)
          (.start 7 .scratch)).1 = .ok table ∧
        table.get? 1 = some flows ∧ table.byName? "flows" = some flows ∧
        Bpf.WritesHandle .big loadInstruction aliases table ⟨0, 2⟩ ⟨8⟩ := by
  have grants : willingKernel.GrantsMaps := fun _ _ => ⟨_, _, rfl⟩
  have points : Bpf.PointsAtLoad loadInstruction ⟨0, 2⟩ := by
    constructor <;> decide
  obtain ⟨_, table, made, -, -, sameMap, -, -⟩ :=
    byName_eq_reference grants aliases 1 twoDefinitions (.start 7 .scratch)
  obtain ⟨map, found, byName, writes⟩ := sameMap 2 _ standsFor_aliases
  have second : (provision willingKernel twoDefinitions (Bpf.mapNames aliases 1 2)
      (.start 7 .scratch)).1.toOption.bind (·.get? 1) = some flows := by decide +kernel
  rw [show (provision willingKernel twoDefinitions (Bpf.mapNames aliases 1 2)
    (.start 7 .scratch)).1 = .ok table from made] at second
  obtain rfl : map = flows := Option.some.inj (found.symm.trans second)
  exact ⟨grants, standsFor_aliases, points, table, made, found, byName,
    writes .big loadInstruction ⟨0, 2⟩ rfl points⟩

end Load

end ProbeStream
