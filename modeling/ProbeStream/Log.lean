/-!
# Log records

What happens beside the results is told in records. A session shows the records that are at
least as severe as its threshold.
-/

namespace ProbeStream

/-- How much a record matters, the gravest first. -/
inductive Severity where
  | error
  | warn
  | info
  | debug
  | trace
deriving DecidableEq, Repr

namespace Severity

/-- The place of a severity, counted from the gravest. -/
def rank : Severity → Nat
  | .error => 0
  | .warn => 1
  | .info => 2
  | .debug => 3
  | .trace => 4

/-- The name of a severity in lower case. -/
def name : Severity → String
  | .error => "error"
  | .warn => "warn"
  | .info => "info"
  | .debug => "debug"
  | .trace => "trace"

end Severity

/-- One log record. -/
structure LogRecord where
  severity : Severity
  text : String
deriving DecidableEq, Repr

/-- Log records, the earliest first. -/
abbrev Log := List LogRecord

/-- The records that a session with this threshold shows. -/
def Log.upTo (log : Log) (threshold : Severity) : Log :=
  log.filter fun entry => entry.severity.rank ≤ threshold.rank

end ProbeStream
