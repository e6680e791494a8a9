import ProbeStream.Bpf.MapType
import ProbeStream.Bytes
import ProbeStream.Elf.Symbol

/-!
# Map definitions

The maps of an object are defined by records of five words in one section: type, key size,
value size, greatest count of entries, flags. The section must be a whole number of records.
A symbol of that section names the map in whose record it points.
-/

namespace ProbeStream.Bpf

/-- What a map is to be. -/
structure MapDefinition where
  type : MapType
  keySize : UInt32
  valueSize : UInt32
  maxEntries : UInt32
  flags : UInt32
deriving DecidableEq, Repr

/-- Bytes in a map record. -/
def mapRecordSize : Nat := 20

namespace MapDefinition

/-- Reads a record from its bytes. -/
def ofBytes (order : ByteOrder) (bytes : Bytes) : MapDefinition where
  type := .ofNumber (order.u32At bytes 0)
  keySize := order.u32At bytes 4
  valueSize := order.u32At bytes 8
  maxEntries := order.u32At bytes 12
  flags := order.u32At bytes 16

def toBytes (order : ByteOrder) (definition : MapDefinition) : Bytes :=
  order.u32 definition.type.number ++ order.u32 definition.keySize ++
    order.u32 definition.valueSize ++ order.u32 definition.maxEntries ++
    order.u32 definition.flags

end MapDefinition

/-- The section of map records has this many bytes, which is no whole number of records. -/
structure MapSectionFault where
  size : Nat
deriving DecidableEq, Repr

def MapSectionFault.message (fault : MapSectionFault) : String :=
  s!"maps section is {fault.size} bytes, not a multiple of the {mapRecordSize} byte map definition"

/-- Reads the section of map records. -/
def mapDefinitions (order : ByteOrder) (data : Bytes) :
    Except MapSectionFault (List MapDefinition) :=
  if data.length % mapRecordSize = 0 then
    .ok ((data.pieces mapRecordSize (data.length / mapRecordSize)).map
      (MapDefinition.ofBytes order))
  else .error ⟨data.length⟩

/-- The number of the map in whose record a symbol points. -/
def mapIndex (symbol : Elf.Symbol) : Nat := symbol.value.toNat / mapRecordSize

/-- Names the map that a symbol points to, if the symbol belongs to the section of map records
and has a name. A later symbol renames the map. -/
def nameMap (holder : Nat) (names : List (Option String)) (symbol : Elf.Symbol) :
    List (Option String) :=
  if symbol.sectionNumber = holder ∧ symbol.name ≠ "" then
    names.set (mapIndex symbol) (some symbol.name)
  else names

/-- The names of `count` maps whose records stand in the section of this number. -/
def mapNames (symbols : List Elf.Symbol) (holder count : Nat) : List (Option String) :=
  symbols.foldl (nameMap holder) (List.replicate count none)

end ProbeStream.Bpf
