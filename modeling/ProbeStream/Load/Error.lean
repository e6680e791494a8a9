import ProbeStream.Errno

/-!
# Why a load fails

A load fails because the object is not as it should be, because the kernel or the tracing
directory refused something, or because the verifier refused a program.
-/

namespace ProbeStream

/-- Why a load failed. -/
inductive LoadError where
  /-- The object, or one of its sections, is malformed. -/
  | format (complaint : String)
  /-- Something was refused. -/
  | resource (attempt : String) (cause : IoError)
  /-- The verifier refused the program of a section. -/
  | programLoad (sectionName : String) (cause : IoError) (log : String)
deriving DecidableEq, Repr

namespace LoadError

def message : LoadError → String
  | .format complaint => s!"format error: {complaint}"
  | .resource attempt cause => s!"{attempt}: {cause.message}"
  | .programLoad sectionName cause log =>
    s!"failed to load program `{sectionName}`: {cause.message}\n{log}"

/-- Whether something was refused, so that the load had to end. -/
def isResource : LoadError → Bool
  | .format _ => false
  | .resource _ _ => true
  | .programLoad _ _ _ => true

/-- The failure behind an error. -/
def cause? : LoadError → Option IoError
  | .format _ => none
  | .resource _ cause => some cause
  | .programLoad _ cause _ => some cause

end LoadError

end ProbeStream
