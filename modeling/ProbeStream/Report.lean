import ProbeStream.Load.Error
import ProbeStream.Text.Fields

/-!
# Failure reports

A failure has a message and the causes behind it, the nearest first. The report shows the message
and then the causes, indented; several causes are numbered. A further line of a message begins
below the first.
-/

namespace ProbeStream

/-- What went wrong, and why. -/
structure Failure where
  message : String
  causes : List String
deriving DecidableEq, Repr

namespace Failure

/-- A failure without a cause. -/
def plain (message : String) : Failure := ⟨message, []⟩

/-- A failure because something could not be read or written. -/
def ofIo (message : String) (cause : IoError) : Failure := ⟨message, [cause.message]⟩

/-- A failure because an object could not be loaded. -/
def ofLoad (message : String) (cause : LoadError) : Failure :=
  ⟨message, cause.message :: (cause.cause?.map (·.message)).toList⟩

/-- A text behind `lead`, whose further lines begin with `indent`. -/
def indented (lead indent text : String) : String :=
  lead ++ ("\n" ++ indent).intercalate ((Text.fields '\n' text.toList).map String.ofList)

/-- The causes from number `index` on. -/
def numbered : (index : Nat) → List String → List String
  | _, [] => []
  | index, cause :: rest =>
    let number := toString index
    let lead := String.ofList (List.replicate (5 - number.length) ' ') ++ number ++ ": "
    indented lead "       " cause :: numbered (index + 1) rest

/-- The causes as they are shown. -/
def shownCauses : List String → List String
  | [cause] => [indented "    " "    " cause]
  | causes => numbered 0 causes

def report (failure : Failure) : String :=
  let lead := s!"Error: {failure.message}"
  match failure.causes with
  | [] => lead ++ "\n"
  | causes => lead ++ "\n\nCaused by:\n" ++ "\n".intercalate (shownCauses causes) ++ "\n"

end Failure

end ProbeStream
