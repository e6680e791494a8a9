import ProbeStream.Bpf.MapDefinition
import ProbeStream.Handle

/-!
# Live maps

A table of the maps that the kernel has created for one object, in the order of their
definitions. A map is found by its place or by its name; of several maps with one name the first
is found. The last program array is the dispatch table of programs that call each other.
-/

namespace ProbeStream.Bpf

/-- A map that exists in the kernel. -/
structure LiveMap where
  index : Nat
  name : Option String
  definition : MapDefinition
  handle : Handle
deriving DecidableEq, Repr

/-- The maps of one object. -/
structure MapTable where
  maps : List LiveMap
  /-- The place of the dispatch table. -/
  dispatch : Option Nat
deriving DecidableEq, Repr

namespace MapTable

def empty : MapTable := ⟨[], none⟩

def size (table : MapTable) : Nat := table.maps.length

def isEmpty (table : MapTable) : Bool := table.maps.isEmpty

def get? (table : MapTable) (index : Nat) : Option LiveMap := table.maps[index]?

/-- The first map of a name. -/
def byName? (table : MapTable) (name : String) : Option LiveMap :=
  table.maps.find? (·.name == some name)

/-- The dispatch table. -/
def progArray? (table : MapTable) : Option LiveMap := table.dispatch.bind table.get?

/-- Adds a map. A program array takes over as the dispatch table. -/
def push (table : MapTable) (map : LiveMap) : MapTable where
  maps := table.maps ++ [map]
  dispatch := if map.definition.type = .progArray then some map.index else table.dispatch

@[simp] theorem maps_push (table : MapTable) (map : LiveMap) :
    (table.push map).maps = table.maps ++ [map] := rfl

@[simp] theorem size_push (table : MapTable) (map : LiveMap) :
    (table.push map).size = table.size + 1 := by
  simp [size]

end MapTable

end ProbeStream.Bpf
