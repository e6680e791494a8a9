import ProbeStream.Errno
import ProbeStream.Text.Blank
import ProbeStream.Text.Decimal
import ProbeStream.Text.Digit
import ProbeStream.Text.Fields

/-!
# Processor lists

The kernel lists processors as numbers and ranges between commas, such as `0-3,6,8-9`. White
space around the list and empty pieces are left out. A range whose first number is greater than
its last one lists nothing.
-/

namespace ProbeStream.Perf

/-- Why a text is no list of processors. -/
inductive CpuListFault where
  /-- A piece is neither a number nor a range. -/
  | malformed (piece : String)
  /-- A number is not below 2^32, or not in ASCII digits. -/
  | outOfRange
deriving DecidableEq, Repr

namespace CpuListFault

def message : CpuListFault → String
  | .malformed piece => s!"bad cpu range `{piece}`"
  | .outOfRange => "cpu number out of range"

end CpuListFault

/-- Whether a text is made of one or more decimal digits of any script. -/
def isNumeral (text : List Char) : Bool := !text.isEmpty && text.all Text.isDecimalDigit

def cpuNumber (numeral : List Char) : Except CpuListFault Nat :=
  match Text.Decimal.readDigits? (UInt32.size - 1) numeral with
  | none => .error .outOfRange
  | some number => .ok number

def cpuRange (first last : Nat) : List UInt32 :=
  (List.range' first (last + 1 - first)).map UInt32.ofNat

/-- The processors of one piece of a list. -/
def cpuPiece (piece : List Char) : Except CpuListFault (List UInt32) :=
  match Text.fields '-' piece with
  | [only] =>
    if isNumeral only then (cpuNumber only).map fun number => cpuRange number number
    else .error (.malformed (String.ofList piece))
  | [first, last] =>
    if isNumeral first && isNumeral last then
      match cpuNumber first with
      | .error fault => .error fault
      | .ok first => (cpuNumber last).map (cpuRange first)
    else .error (.malformed (String.ofList piece))
  | _ => .error (.malformed (String.ofList piece))

/-- The processors of several pieces. The first bad piece counts. -/
def cpuPieces : List (List Char) → Except CpuListFault (List UInt32)
  | [] => .ok []
  | piece :: rest =>
    match cpuPiece piece with
    | .error fault => .error fault
    | .ok cpus => (cpuPieces rest).map (cpus ++ ·)

def cpuList (text : String) : Except CpuListFault (List UInt32) :=
  cpuPieces ((Text.fields ',' (Text.trim text.toList)).filter (· ≠ []))

end ProbeStream.Perf
