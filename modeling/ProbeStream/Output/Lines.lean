import ProbeStream.Output.EventOutput

/-!
# Lines by family

An output that keeps the lines of each family apart, and takes only so many of each.
-/

namespace ProbeStream.Output

/-- The lines of one family. -/
structure Lines where
  lines : List String
  /-- How many more lines fit; no number means any. -/
  room : Option Nat
deriving DecidableEq, Repr

namespace Lines

/-- Takes a line, if there is room. -/
def put (line : String) (kept : Lines) : Except IoError Unit × Lines :=
  match kept.room with
  | none => (.ok (), { kept with lines := kept.lines ++ [line] })
  | some 0 => (.error (.system .brokenPipe), kept)
  | some (room + 1) => (.ok (), { lines := kept.lines ++ [line], room := some room })

end Lines

/-- The lines of both families. -/
structure LinesByFamily where
  v4 : Lines
  v6 : Lines
deriving DecidableEq, Repr

namespace LinesByFamily

def put (family : Family) (line : String) : StateM LinesByFamily (Except IoError Unit) :=
  fun kept =>
    match family with
    | .v4 => let (answer, v4) := kept.v4.put line; (answer, { kept with v4 })
    | .v6 => let (answer, v6) := kept.v6.put line; (answer, { kept with v6 })

/-- The output that keeps the lines of each family apart. -/
def output (format : OutputFormat) : EventOutput LinesByFamily where
  writeEvent family event := put family (format.line event)
  flush := pure (.ok ())

end LinesByFamily

end ProbeStream.Output
