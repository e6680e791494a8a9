/-!
# Decimal numbers

Numbers are written in ASCII digits without leading zeros. A number that is read may have
leading zeros and one plus sign in front, and it must not exceed a bound.
-/

namespace ProbeStream.Text.Decimal

def write (n : Nat) : String := String.ofList (Nat.toDigits 10 n)

/-- `n` in lower-case hexadecimal digits behind `0x`. -/
def writeHex (n : Nat) : String := String.ofList (['0', 'x'] ++ Nat.toDigits 16 n)

/-- Whether a character is one of the ten ASCII digits. -/
def isDigit (c : Char) : Bool := '0' ≤ c && c ≤ '9'

/-- The number that ASCII digits write. -/
def value (digits : List Char) : Nat :=
  digits.foldl (fun n c => 10 * n + (c.toNat - '0'.toNat)) 0

/-- Reads one or more ASCII digits that write a number of at most `bound`. -/
def readDigits? (bound : Nat) (text : List Char) : Option Nat :=
  if text ≠ [] ∧ text.all isDigit ∧ value text ≤ bound then some (value text) else none

/-- Reads a number of at most `bound`, with or without a plus sign. -/
def read? (bound : Nat) : List Char → Option Nat
  | '+' :: digits => readDigits? bound digits
  | text => readDigits? bound text

end ProbeStream.Text.Decimal
