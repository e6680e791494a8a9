/-!
# Map types

Ten map types have names here; every other number stands for itself. Reading a number and
writing it back gives the same number (`MapType.number_ofNumber`), and a type that was read is
found again (`MapType.ofNumber_number_ofNumber`).
-/

namespace ProbeStream.Bpf

/-- What kind of table a map is. -/
inductive MapType where
  | hash
  | array
  | progArray
  | perfEventArray
  | percpuHash
  | percpuArray
  | stackTrace
  | cgroupArray
  | lruHash
  | lruPercpuHash
  | other (number : UInt32)
deriving DecidableEq, Repr

namespace MapType

def ofNumber (number : UInt32) : MapType :=
  if number = 1 then .hash
  else if number = 2 then .array
  else if number = 3 then .progArray
  else if number = 4 then .perfEventArray
  else if number = 5 then .percpuHash
  else if number = 6 then .percpuArray
  else if number = 7 then .stackTrace
  else if number = 8 then .cgroupArray
  else if number = 9 then .lruHash
  else if number = 10 then .lruPercpuHash
  else .other number

def number : MapType → UInt32
  | .hash => 1
  | .array => 2
  | .progArray => 3
  | .perfEventArray => 4
  | .percpuHash => 5
  | .percpuArray => 6
  | .stackTrace => 7
  | .cgroupArray => 8
  | .lruHash => 9
  | .lruPercpuHash => 10
  | .other number => number

/-- The name of a type, as messages show it. -/
def name : MapType → String
  | .hash => "hash"
  | .array => "array"
  | .progArray => "prog_array"
  | .perfEventArray => "perf_event_array"
  | .percpuHash => "percpu_hash"
  | .percpuArray => "percpu_array"
  | .stackTrace => "stack_trace"
  | .cgroupArray => "cgroup_array"
  | .lruHash => "lru_hash"
  | .lruPercpuHash => "lru_percpu_hash"
  | .other number => s!"type {number.toNat}"

@[simp] theorem number_ofNumber (raw : UInt32) : (ofNumber raw).number = raw := by
  unfold ofNumber
  repeat' split
  all_goals simp_all [number]

theorem ofNumber_number_ofNumber (raw : UInt32) :
    ofNumber (ofNumber raw).number = ofNumber raw := by
  rw [number_ofNumber]

end MapType

end ProbeStream.Bpf
