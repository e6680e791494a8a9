/-!
# Handles

The kernel names each map, program and event that it opens by a number.
-/

namespace ProbeStream

/-- The kernel's number for something it has opened. -/
structure Handle where
  number : UInt32
deriving DecidableEq, Repr

end ProbeStream
