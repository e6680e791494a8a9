import ProbeStream.Bpf.MapTable
import ProbeStream.Load.Session

/-!
# Creating maps

One kernel map is created for each definition, in order. The first refusal ends the load.
-/

namespace ProbeStream.Load

variable {σ : Type}

/-- How messages call a map. -/
def mapLabel (name : Option String) : String := name.getD "unnamed"

/-- The complaint about a map that was refused. -/
def refusal (index : Nat) (name : Option String) (cause : IoError) : LoadError :=
  .resource s!"failed to create map {index} ({mapLabel name})" cause

/-- What is told when a map takes over as the dispatch table. -/
def replacementNotice (maps : Bpf.MapTable) (index : Nat) : Log :=
  match maps.dispatch with
  | none => []
  | some previous =>
    [⟨.warn, s!"map {index} replaces map {previous} as the program-array dispatch table"⟩]

def createMap (kernel : Kernel σ) (index : Nat) (definition : Bpf.MapDefinition)
    (name : Option String) (maps : Bpf.MapTable) : Load σ Bpf.MapTable := do
  let answer ← request (kernel.createMap definition) (.createMap definition)
  let handle ← require answer (refusal index name)
  note .info <|
    s!"created {definition.type.name} map {index} ({mapLabel name}) fd {handle.number.toNat}"
  if definition.type = .progArray then noteAll (replacementNotice maps index)
  return maps.push { index, name, definition, handle }

/-- Creates the maps of the definitions from number `index` on. -/
def createMaps (kernel : Kernel σ) : (index : Nat) → List Bpf.MapDefinition →
    (names : List (Option String)) → Bpf.MapTable → Load σ Bpf.MapTable
  | _, [], _, maps => pure maps
  | index, definition :: rest, names, maps => do
    let maps ← createMap kernel index definition names.head?.join maps
    createMaps kernel (index + 1) rest names.tail maps

/-- Creates the maps of an object. A map without a place in `names` has no name. -/
def provision (kernel : Kernel σ) (definitions : List Bpf.MapDefinition)
    (names : List (Option String)) : Load σ Bpf.MapTable :=
  createMaps kernel 0 definitions names .empty

end ProbeStream.Load
