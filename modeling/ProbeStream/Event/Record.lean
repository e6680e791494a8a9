import ProbeStream.Net.Address
import ProbeStream.Text.Utf8

/-!
# TCP events

A probe reports that a connection was opened, accepted or closed. There is one kind of report
for each address family, and they differ only in the size of the addresses.

The probes copy addresses as they stand in packets, so the words of an address hold its octets
in network order, the first octet in the lowest byte.
-/

namespace ProbeStream

/-- The address families. -/
inductive Family where
  | v4
  | v6
deriving DecidableEq, Repr

namespace Family

def streamName : Family → String
  | .v4 => "tcp_event_v4"
  | .v6 => "tcp_event_v6"

end Family

/-- An address as the probes store it, in words. -/
inductive Address : Family → Type where
  | v4 (word : UInt32) : Address .v4
  | v6 (high low : UInt64) : Address .v6
deriving DecidableEq, Repr

namespace Address

/-- The octets of an address in network order. -/
def octets {family : Family} : Address family → Bytes
  | .v4 word => ByteOrder.little.u32 word
  | .v6 high low => ByteOrder.little.u64 high ++ ByteOrder.little.u64 low

def text {family : Family} : Address family → String
  | .v4 word => Net.ipv4Text (octets (.v4 word))
  | .v6 high low => Net.ipv6Text (octets (.v6 high low))

def endpointText {family : Family} (address : Address family) (port : UInt16) : String :=
  match family with
  | .v4 => s!"{address.text}:{port.toNat}"
  | .v6 => s!"[{address.text}]:{port.toNat}"

end Address

/-- The name of a command: sixteen bytes, padded with NUL. -/
structure CommandName where
  bytes : Bytes
  length_bytes : bytes.length = 16
deriving DecidableEq, Repr

namespace CommandName

/-- The text in front of the first NUL. -/
def text (command : CommandName) : String := Utf8.decodeLossy command.bytes.beforeNul

end CommandName

/-- What an event reports. -/
inductive EventKind where
  | connect
  | accept
  | close
  | unknown (number : UInt32)
deriving DecidableEq, Repr

namespace EventKind

def ofNumber (number : UInt32) : EventKind :=
  if number = 1 then .connect
  else if number = 2 then .accept
  else if number = 3 then .close
  else .unknown number

def word : EventKind → String
  | .connect => "connect"
  | .accept => "accept"
  | .close => "close"
  | .unknown _ => "unknown"

end EventKind

/-- One report of a probe. -/
structure Event (family : Family) where
  timestamp : UInt64
  cpu : UInt64
  type : UInt32
  pid : UInt32
  command : CommandName
  source : Address family
  destination : Address family
  sourcePort : UInt16
  destinationPort : UInt16
  netns : UInt32
deriving DecidableEq, Repr

namespace Event

variable {family : Family}

def kind (event : Event family) : EventKind := .ofNumber event.type

/-- Where the connection comes from. -/
def sourceText (event : Event family) : String := event.source.endpointText event.sourcePort

/-- Where the connection goes to. -/
def destinationText (event : Event family) : String :=
  event.destination.endpointText event.destinationPort

end Event

end ProbeStream
