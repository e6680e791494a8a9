import ProbeStream.Text.Fields
import ProbeStream.Text.Utf8

/-!
# Paths

A path is a text. Its parts stand between slashes, and it is absolute if it begins with one.
Joining keeps both sides as they are written.
-/

namespace ProbeStream.Fs

/-- Whether a path begins at the root. -/
def isAbsolute (path : String) : Bool := Text.startsWith "/" path

/-- The path of `part` seen from `base`. An absolute part replaces the base; otherwise a slash
goes between them, unless the base is empty or already ends in one. -/
def join (base part : String) : String :=
  if isAbsolute part then part
  else if base = "" ∨ base.toList.getLast? = some '/' then base ++ part
  else base ++ "/" ++ part

/-- The parts of a path between its slashes. -/
def parts (path : String) : List String := (Text.fields '/' path.toList).map String.ofList

/-- The greatest number of bytes in one part of a path. -/
def nameLimit : Nat := 255

/-- The number of bytes from which on a path is too long. -/
def pathLimit : Nat := 4096

end ProbeStream.Fs
