import ProbeStream.Text.Fields

/-!
# Program categories

What a program is follows from the name of its section. The names of probes and tracepoints go
on with their target, which must not be empty.
-/

namespace ProbeStream.Bpf

/-- What a program is, and the event that it belongs to. -/
inductive Category where
  /-- Runs when a kernel function is entered. -/
  | kprobe (symbol : String)
  /-- Runs when a kernel function returns. -/
  | kretprobe (symbol : String)
  /-- Runs at a place that the kernel marks, given as `category/name`. -/
  | tracepoint (path : String)
  | xdp
  | perfEvent
  | socketFilter
deriving DecidableEq, Repr

/-- Why a section name gives no category. -/
inductive CategoryFault where
  | emptyTarget (name : String)
  | unknown (name : String)
deriving DecidableEq, Repr

namespace CategoryFault

def message : CategoryFault → String
  | .emptyTarget name => s!"event name cannot be empty in section `{name}`"
  | .unknown name => s!"unknown event category for section `{name}`"

end CategoryFault

namespace Category

/-- The category of the section called `name`, once its target is cut off. -/
def ofTarget (name target : String) (category : String → Category) :
    Except CategoryFault Category :=
  if target = "" then .error (.emptyTarget name) else .ok (category target)

/-- The category of the section called `name`. -/
def ofSectionName (name : String) : Except CategoryFault Category :=
  match Text.afterLead? "kprobe/" name with
  | some target => ofTarget name target .kprobe
  | none =>
    match Text.afterLead? "kretprobe/" name with
    | some target => ofTarget name target .kretprobe
    | none =>
      match Text.afterLead? "tracepoint/" name with
      | some target => ofTarget name target .tracepoint
      | none =>
        if Text.startsWith "xdp" name then .ok .xdp
        else if Text.startsWith "perf_event" name then .ok .perfEvent
        else if Text.startsWith "socket" name then .ok .socketFilter
        else .error (.unknown name)

/-- The beginnings of the names of program sections. -/
def leads : List String :=
  ["kprobe/", "kretprobe/", "tracepoint/", "xdp", "perf_event", "socket"]

/-- Whether a section of this name holds a program. -/
def isProgramSection (name : String) : Bool := leads.any (Text.startsWith · name)

/-- The kernel's number for the type of such programs. -/
def programType : Category → UInt32
  | .socketFilter => 1
  | .kprobe _ => 2
  | .kretprobe _ => 2
  | .tracepoint _ => 5
  | .xdp => 6
  | .perfEvent => 7

/-- The target of a probe or tracepoint. -/
def target? : Category → Option String
  | .kprobe symbol => some symbol
  | .kretprobe symbol => some symbol
  | .tracepoint path => some path
  | _ => none

/-- A category with its target, as messages show it. -/
def describe : Category → String
  | .kprobe symbol => s!"kprobe {symbol}"
  | .kretprobe symbol => s!"kretprobe {symbol}"
  | .tracepoint path => s!"tracepoint {path}"
  | .xdp => "xdp"
  | .perfEvent => "perf_event"
  | .socketFilter => "socket filter"

end Category

end ProbeStream.Bpf
