import ProbeStream.Event.Wire

/-!
# Decoding a stream

The events of one stream must not go back in time. A decoder remembers the timestamp of the last
event that it accepted and refuses an older one. A buffer that gives no event, and an event that
is refused, leave the decoder as it was.
-/

namespace ProbeStream

/-- The state of the decoder of one stream. -/
structure Decoder where
  order : ByteOrder
  lastTimestamp : UInt64
deriving DecidableEq, Repr

namespace Decoder

def start (order : ByteOrder) : Decoder := ⟨order, 0⟩

/-- The event in a buffer, if it is not older than those before it. -/
def decode (family : Family) (decoder : Decoder) (bytes : Bytes) :
    Except StreamError (Event family) × Decoder :=
  match Event.decode family decoder.order bytes with
  | .error failure => (.error failure, decoder)
  | .ok event =>
    if event.timestamp < decoder.lastTimestamp then
      (.error (.ordering event.timestamp decoder.lastTimestamp), decoder)
    else (.ok event, { decoder with lastTimestamp := event.timestamp })

end Decoder

end ProbeStream
