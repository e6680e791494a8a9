import ProbeStream.Bytes

/-!
# String tables

A string table is a stretch of the file. A string is given by its offset in the table and ends
in front of the first NUL behind that offset.
-/

namespace ProbeStream.Elf

/-- The stretch of the file that holds a table of strings. -/
structure StringTable where
  start : Nat
  stop : Nat
deriving DecidableEq, Repr

/-- The string at `offset` of the table. There is none if the table reaches beyond the file, if
the offset lies beyond the table, or if the table holds no NUL from there on. -/
def StringTable.get? (table : StringTable) (file : Bytes) (offset : Nat) : Option Bytes :=
  if table.start + offset ≤ table.stop ∧ table.stop ≤ file.length then
    let rest := file.slice (table.start + offset) (table.stop - (table.start + offset))
    if (0 : UInt8) ∈ rest then some rest.beforeNul else none
  else none

end ProbeStream.Elf
