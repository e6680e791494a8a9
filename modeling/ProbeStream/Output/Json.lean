import ProbeStream.Output.Text

/-!
# Events as lines of JSON

A line holds one JSON object without spaces, with the members `timestamp`, `cpu`, `type`, `pid`,
`comm`, `source`, `destination` and `netns` in this order. Objects of IPv6 events have no
`comm`. In strings a backslash stands in front of a quote and of a backslash; backspace, form
feed, line feed, carriage return and tab have letters of their own, the other characters below
the space are written as four hexadecimal digits, and every other character stands for itself.
-/

namespace ProbeStream.Output.Json

/-- `n` in four lower-case hexadecimal digits, for `n` below 65536. -/
def hex4 (n : Nat) : List Char :=
  let digits := Nat.toDigits 16 n
  List.replicate (4 - digits.length) '0' ++ digits

/-- The written form of one character in a string. -/
def escape (c : Char) : List Char :=
  if c = '"' then ['\\', '"']
  else if c = '\\' then ['\\', '\\']
  else if c = '\x08' then ['\\', 'b']
  else if c = '\x0c' then ['\\', 'f']
  else if c = '\n' then ['\\', 'n']
  else if c = '\r' then ['\\', 'r']
  else if c = '\t' then ['\\', 't']
  else if c < ' ' then ['\\', 'u'] ++ hex4 c.toNat
  else [c]

def string (text : String) : String :=
  String.ofList (['"'] ++ text.toList.flatMap escape ++ ['"'])

/-- An object with these members, whose values are already written. -/
def object (members : List (String × String)) : String :=
  "\x7b" ++ ",".intercalate (members.map fun entry => string entry.1 ++ ":" ++ entry.2) ++ "\x7d"

end Json

def jsonMembers {family : Family} (event : Event family) : List (String × String) :=
  [("timestamp", Text.Decimal.write event.timestamp.toNat),
    ("cpu", Text.Decimal.write event.cpu.toNat),
    ("type", Json.string event.kind.word),
    ("pid", Text.Decimal.write event.pid.toNat)] ++
  (match shownCommand event with
    | none => []
    | some name => [("comm", Json.string name)]) ++
  [("source", Json.string event.sourceText),
    ("destination", Json.string event.destinationText),
    ("netns", Text.Decimal.write event.netns.toNat)]

/-- The line of an event, with a line feed at its end. -/
def jsonLine {family : Family} (event : Event family) : String :=
  Json.object (jsonMembers event) ++ "\n"

end ProbeStream.Output
