import ProbeStream.Event.Record
import ProbeStream.Text.Decimal
import ProbeStream.Text.Quoted

/-!
# Events as lines of text

A line holds, with one space between them: the timestamp, `cpu#` and the processor, the kind of
event, the process, the command name in quotes, the two endpoints and the network namespace.
Lines of IPv6 events leave out the command name.
-/

namespace ProbeStream.Output

/-- The command name of an event, if lines show it. -/
def shownCommand {family : Family} (event : Event family) : Option String :=
  match family with
  | .v4 => some event.command.text
  | .v6 => none

/-- The line of an event, with a line feed at its end. -/
def textLine {family : Family} (event : Event family) : String :=
  let lead := s!"{event.timestamp.toNat} cpu#{event.cpu.toNat} {event.kind.word} {event.pid.toNat} "
  let command := match shownCommand event with
    | none => ""
    | some name => Text.Quoted.quote name ++ " "
  lead ++ command ++ s!"{event.sourceText} {event.destinationText} {event.netns.toNat}\n"

end ProbeStream.Output
