import ProbeStream.Bpf.MapTable
import ProbeStream.Bpf.Registers
import ProbeStream.Elf.Image
import ProbeStream.Text.Decimal

/-!
# Map references

A program refers to a map by an instruction that loads a 64-bit constant. A relocation entry
names that instruction and a symbol, and the symbol's value names the map. Resolving the entry
puts the map's handle into the constant and marks the source register.

All entries are checked before anything is written, so one bad entry leaves the program as it
was. Several entries may name one instruction; the last one wins.
-/

namespace ProbeStream.Bpf

def instructionSize : Nat := 8

/-- The operation that loads a 64-bit constant. -/
def loadConstant : UInt8 := 0x18

/-- The source register that marks the constant as a map handle. -/
def mapHandleMark : UInt8 := 1

/-- Why a relocation entry cannot be resolved. -/
inductive RelocationFault where
  | pastEnd (offset : UInt64) (instructions : Nat)
  | notConstant (instruction : Nat) (operation : UInt8)
  | noSymbol (number : Nat)
  | noMap (symbol : String) (index count : Nat)
deriving DecidableEq, Repr

namespace RelocationFault

def message : RelocationFault → String
  | .pastEnd offset instructions =>
    s!"relocation offset {offset.toNat} is past the end of the program ({instructions} insns)"
  | .notConstant instruction operation =>
    s!"invalid relocation target: insn[{instruction}].code {Text.Decimal.writeHex operation.toNat}"
  | .noSymbol number => s!"relocation references symbol {number} which does not exist"
  | .noMap symbol index count =>
    s!"relocation for `{symbol}` references map {index}, only {count} maps exist"

end RelocationFault

/-- A map handle and the instruction that is to carry it. -/
structure Patch where
  instruction : Nat
  handle : Handle
deriving DecidableEq, Repr

namespace Patch

/-- Writes the handle into the instruction. -/
def apply (order : ByteOrder) (program : Bytes) (patch : Patch) : Bytes :=
  let start := patch.instruction * instructionSize
  let registers : Registers := ⟨(program[start + 1]?).getD 0⟩
  let marked := program.set (start + 1) (registers.setSource order mapHandleMark).byte
  Bytes.overwrite marked (start + 4) (order.u32 patch.handle.number)

def describe (patch : Patch) : String :=
  s!"insn[{patch.instruction}] -> map fd {patch.handle.number.toNat}"

end Patch

/-- Checks one entry: the instruction must exist and load a constant, and the symbol and its map
must exist. -/
def resolveEntry (program : Bytes) (symbols : List Elf.Symbol) (maps : MapTable)
    (entry : Elf.Relocation) : Except RelocationFault Patch :=
  let instructions := program.length / instructionSize
  let instruction := entry.offset.toNat / instructionSize
  if instructions ≤ instruction then .error (.pastEnd entry.offset instructions)
  else
    let operation := (program[instruction * instructionSize]?).getD 0
    if operation ≠ loadConstant then .error (.notConstant instruction operation)
    else match symbols[entry.symbol]? with
      | none => .error (.noSymbol entry.symbol)
      | some symbol =>
        match maps.get? (mapIndex symbol) with
        | none => .error (.noMap symbol.name (mapIndex symbol) maps.size)
        | some map => .ok ⟨instruction, map.handle⟩

/-- Checks all entries and stops at the first bad one. -/
def resolveEntries (program : Bytes) (symbols : List Elf.Symbol) (maps : MapTable) :
    List Elf.Relocation → Except RelocationFault (List Patch)
  | [] => .ok []
  | entry :: rest =>
    match resolveEntry program symbols maps entry with
    | .error fault => .error fault
    | .ok patch => (resolveEntries program symbols maps rest).map (patch :: ·)

/-- The program with the handles of all entries, and what was written where. All entries are checked
before the first is written, and a fault comes without a program: that nothing is changed then holds
by the shape of the result. -/
def relocate (order : ByteOrder) (program : Bytes) (entries : List Elf.Relocation)
    (symbols : List Elf.Symbol) (maps : MapTable) :
    Except RelocationFault (Bytes × List Patch) :=
  (resolveEntries program symbols maps entries).map fun patches =>
    (patches.foldl (Patch.apply order) program, patches)

end ProbeStream.Bpf
