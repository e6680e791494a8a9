import Mathlib.Tactic.NthRewrite
import ProbeStream.Bpf.MapDefinition
import ProbeStream.Proofs.Words

/-!
# Records and definitions of maps

A record and a definition say the same, in either byte order: a record is written as it was read
(`toBytes_ofBytes`), and a definition is read as it was written if its type is the type of some
number (`ofBytes_toBytes`). No two numbers have one type (`ofNumber_injective`).

So the sections of map records are exactly the lists of such definitions, written one behind the
other (`mapDefinitions_exact`).
-/

namespace ProbeStream.Bpf

open Bytes (HasAt)

variable {order : ByteOrder} {data record : Bytes} {definition : MapDefinition}
  {definitions : List MapDefinition}

/-! ## Types -/

namespace MapType

/-- The type is the type of some number: it has a name, or it is another type under a number that
has none. The other type under the number one is not, since one is the number of a named type. -/
def IsOfNumber (type : MapType) : Prop := ∃ raw, ofNumber raw = type

theorem ofNumber_injective : Function.Injective ofNumber :=
  Function.LeftInverse.injective number_ofNumber

theorem IsOfNumber.ofNumber_number {type : MapType} (known : type.IsOfNumber) :
    ofNumber type.number = type := by
  obtain ⟨raw, rfl⟩ := known
  exact ofNumber_number_ofNumber raw

/-- A number has no name if it is zero or above ten. -/
theorem ofNumber_eq_other_iff {raw number : UInt32} :
    ofNumber raw = .other number ↔ raw = number ∧ (number = 0 ∨ 10 < number) := by
  constructor
  · intro unnamed
    obtain rfl : raw = number := (number_ofNumber raw).symm.trans (congrArg MapType.number unnamed)
    refine ⟨rfl, ?_⟩
    rw [ofNumber] at unnamed
    repeat' split at unnamed
    all_goals cases unnamed
    grind
  · rintro ⟨rfl, unnamed⟩
    have apart (named : UInt32) (least : named ≠ 0) (most : ¬ 10 < named) : raw ≠ named := by
      rintro rfl
      exact unnamed.elim least most
    simp (disch := decide) only [ofNumber, apart, if_false]

end MapType

/-! ## Records -/

namespace MapDefinition

theorem length_toBytes (order : ByteOrder) (definition : MapDefinition) :
    (definition.toBytes order).length = mapRecordSize := by
  simp [toBytes, mapRecordSize]

theorem ofBytes_toBytes (order : ByteOrder) (known : definition.type.IsOfNumber) :
    ofBytes order (definition.toBytes order) = definition := by
  have type := HasAt.whole (definition.toBytes order)
  nth_rewrite 2 [toBytes] at type
  simp only [List.append_assoc] at type
  have keySize := type.append_right (order.length_u32 _)
  have valueSize := keySize.append_right (order.length_u32 _)
  have maxEntries := valueSize.append_right (order.length_u32 _)
  have flags := maxEntries.append_right (order.length_u32 _)
  have number : order.u32At (definition.toBytes order) 0 = definition.type.number :=
    type.append_left.u32At.trans UInt32.ofNat_toNat
  rw [ofBytes]
  congr 1
  · rw [number, known.ofNumber_number]
  · exact keySize.append_left.u32At.trans UInt32.ofNat_toNat
  · exact valueSize.append_left.u32At.trans UInt32.ofNat_toNat
  · exact maxEntries.append_left.u32At.trans UInt32.ofNat_toNat
  · exact flags.u32At.trans UInt32.ofNat_toNat

theorem toBytes_ofBytes (order : ByteOrder) (length : record.length = mapRecordSize) :
    (ofBytes order record).toBytes order = record := by
  rw [mapRecordSize] at length
  rw [toBytes, ofBytes, MapType.number_ofNumber, ByteOrder.u32_u32At (by omega),
    ByteOrder.u32_u32At (by omega), ByteOrder.u32_u32At (by omega),
    ByteOrder.u32_u32At (by omega), ByteOrder.u32_u32At (by omega)]
  simp (disch := omega) only [Bytes.slice_append_slice]
  exact List.take_of_length_le (Nat.le_of_eq length)

end MapDefinition

/-! ## Sections -/

theorem mapDefinitions_eq_ok_iff :
    mapDefinitions order data = .ok definitions ↔ data.length % mapRecordSize = 0 ∧
      (data.pieces mapRecordSize (data.length / mapRecordSize)).map (MapDefinition.ofBytes order) =
        definitions := by
  rw [mapDefinitions]
  split
  next whole => simp [whole]
  next broken => simp [broken]

theorem mapDefinitions_eq_error_iff {fault : MapSectionFault} :
    mapDefinitions order data = .error fault ↔
      data.length % mapRecordSize ≠ 0 ∧ fault = ⟨data.length⟩ := by
  rw [mapDefinitions]
  split
  next whole => simp [whole]
  next broken => simp [broken, eq_comm]

theorem length_of_mapDefinitions (read : mapDefinitions order data = .ok definitions) :
    data.length = definitions.length * mapRecordSize := by
  obtain ⟨whole, rfl⟩ := mapDefinitions_eq_ok_iff.mp read
  rw [List.length_map, Bytes.length_pieces, Nat.div_mul_cancel (Nat.dvd_of_mod_eq_zero whole)]

/-- Definitions are read as they were written. -/
theorem mapDefinitions_flatMap (order : ByteOrder)
    (known : ∀ definition ∈ definitions, definition.type.IsOfNumber) :
    mapDefinitions order (definitions.flatMap (MapDefinition.toBytes order)) = .ok definitions := by
  have size : (definitions.flatMap (MapDefinition.toBytes order)).length =
      definitions.length * mapRecordSize :=
    Bytes.length_flatMap (MapDefinition.length_toBytes order) definitions
  have positive : 0 < mapRecordSize := by decide
  refine mapDefinitions_eq_ok_iff.mpr ⟨?_, ?_⟩
  · rw [size]
    exact Nat.mul_mod_left _ _
  · rw [size, Nat.mul_div_cancel _ positive,
      Bytes.pieces_flatMap (MapDefinition.length_toBytes order), List.map_map]
    refine (List.map_congr_left fun definition member => ?_).trans (List.map_id definitions)
    exact MapDefinition.ofBytes_toBytes order (known definition member)

/-- The definitions of a section are written as they stand there. -/
theorem flatMap_of_mapDefinitions (read : mapDefinitions order data = .ok definitions) :
    definitions.flatMap (MapDefinition.toBytes order) = data := by
  have length := length_of_mapDefinitions read
  obtain ⟨-, rfl⟩ := mapDefinitions_eq_ok_iff.mp read
  rw [List.length_map, Bytes.length_pieces] at length
  calc _ = (data.pieces mapRecordSize (data.length / mapRecordSize)).flatten := by
        rw [List.flatMap_map, List.flatMap_def]
        refine congrArg List.flatten ((List.map_congr_left fun record member => ?_).trans
          (List.map_id _))
        exact MapDefinition.toBytes_ofBytes order (Bytes.length_of_mem_pieces length member)
    _ = data := Bytes.flatten_pieces length

theorem isOfNumber_of_mapDefinitions (read : mapDefinitions order data = .ok definitions) :
    ∀ definition ∈ definitions, definition.type.IsOfNumber := by
  obtain ⟨-, rfl⟩ := mapDefinitions_eq_ok_iff.mp read
  intro definition member
  obtain ⟨record, -, rfl⟩ := List.mem_map.mp member
  exact ⟨_, rfl⟩

/-- The sections of map records and the lists of definitions with types of numbers are the same, in
either byte order: a section gives a list exactly if it is written by it. A section can be read if
its size is a multiple of twenty, and its size is reported if not. Two numbers never have one type,
and exactly zero and the numbers above ten stand for themselves. -/
theorem mapDefinitions_exact (order : ByteOrder) :
    (∀ data : Bytes, (∃ definitions, mapDefinitions order data = .ok definitions) ↔
      data.length % 20 = 0) ∧
    (∀ (data : Bytes) (fault : MapSectionFault), mapDefinitions order data = .error fault ↔
      data.length % 20 ≠ 0 ∧ fault = ⟨data.length⟩) ∧
    (∀ (data : Bytes) (definitions : List MapDefinition),
      mapDefinitions order data = .ok definitions ↔
        definitions.flatMap (MapDefinition.toBytes order) = data ∧
          ∀ definition ∈ definitions, definition.type.IsOfNumber) ∧
    (∀ (data : Bytes) (definitions : List MapDefinition),
      mapDefinitions order data = .ok definitions → definitions.length = data.length / 20) ∧
    Function.Injective MapType.ofNumber ∧
    ∀ raw number, MapType.ofNumber raw = .other number ↔
      raw = number ∧ (number = 0 ∨ 10 < number) := by
  refine ⟨fun data => ?_, fun _ _ => mapDefinitions_eq_error_iff, fun data definitions => ?_,
    fun data definitions read => ?_, MapType.ofNumber_injective,
    fun _ _ => MapType.ofNumber_eq_other_iff⟩
  · constructor
    · rintro ⟨definitions, read⟩
      rw [length_of_mapDefinitions read]
      exact Nat.mul_mod_left _ _
    · intro whole
      exact ⟨_, if_pos whole⟩
  · constructor
    · intro read
      exact ⟨flatMap_of_mapDefinitions read, isOfNumber_of_mapDefinitions read⟩
    · rintro ⟨rfl, known⟩
      exact mapDefinitions_flatMap order known
  · rw [length_of_mapDefinitions read]
    exact (Nat.mul_div_cancel _ (by decide)).symm

end ProbeStream.Bpf
