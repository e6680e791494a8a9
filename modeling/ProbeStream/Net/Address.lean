import ProbeStream.Bytes
import ProbeStream.Text.Decimal

/-!
# Internet addresses as text

An IPv4 address is four octets, written in decimal between dots. An IPv6 address is sixteen
octets, which make eight groups of two, written in lower-case hexadecimal between colons:

- the longest run of at least two groups of zero, and of several such runs the first, is left
  out, and two colons stand in its place;
- an address whose octets are ten zeros, two of `ff` and an IPv4 address is written as
  `::ffff:` and that address.

An endpoint is an address and a port; an IPv6 address stands in brackets there.
-/

namespace ProbeStream.Net

/-- An IPv4 address of four octets. -/
def ipv4Text (octets : Bytes) : String :=
  ".".intercalate (octets.map fun octet => Text.Decimal.write octet.toNat)

/-- The groups of an IPv6 address. -/
def groups : Bytes → List Nat
  | high :: low :: rest => (high.toNat * 256 + low.toNat) :: groups rest
  | _ => []

/-- A run of groups. -/
structure Run where
  start : Nat
  length : Nat
deriving DecidableEq, Repr

/-- How many groups of zero a list begins with. -/
def leadingZeros (list : List Nat) : Nat := (list.takeWhile (· == 0)).length

/-- The first of the longest runs of zero in `list`, whose first group has the number `start`,
unless `best` is as long. -/
def longestZeros (best : Run) : (start : Nat) → (list : List Nat) → Run
  | _, [] => best
  | start, group :: rest =>
    let here : Run := ⟨start, leadingZeros (group :: rest)⟩
    longestZeros (if best.length < here.length then here else best) (start + 1) rest

/-- Groups in hexadecimal between colons. -/
def groupsText (list : List Nat) : String :=
  ":".intercalate (list.map fun group => String.ofList (Nat.toDigits 16 group))

/-- The octets in front of an IPv4 address that is written as an IPv6 address. -/
def mappedLead : Bytes := [0, 0, 0, 0, 0, 0, 0, 0, 0, 0, 0xFF, 0xFF]

/-- An IPv6 address of sixteen octets. -/
def ipv6Text (octets : Bytes) : String :=
  if octets.take 12 = mappedLead then "::ffff:" ++ ipv4Text (octets.drop 12)
  else
    let list := groups octets
    let zeros := longestZeros ⟨0, 0⟩ 0 list
    if 1 < zeros.length then
      groupsText (list.take zeros.start) ++ "::" ++
        groupsText (list.drop (zeros.start + zeros.length))
    else groupsText list

end ProbeStream.Net
