import ProbeStream.Errno
import ProbeStream.Fs.Path

/-!
# File trees

A file tree says what stands at which location. A *location* is the list of names that leads
there from the root, without `.` or `..`; a path is walked part by part to find its location:

- an empty part and `.` stay, `..` goes back, and at the root it stays;
- a part can only be looked up in a directory;
- a part of more than 255 bytes, and a path of 4096 bytes or more, are too long;
- a slash at the end asks for a directory.

Files are read and written as a whole, or a piece is added at the end.
-/

namespace ProbeStream.Fs

/-- What stands at a location. -/
inductive Node where
  | directory
  | file (content : Bytes)
deriving DecidableEq, Repr

/-- The names that lead from the root to a place. -/
abbrev Location := List String

/-- What stands where, and where paths that are not absolute begin. The root is always a
directory. -/
structure Tree where
  nodes : List (Location × Node)
  here : Location
deriving DecidableEq, Repr

/-- Where a path leads. -/
inductive Target where
  /-- To something that is there. -/
  | present (location : Location) (node : Node)
  /-- To a name that is free in a directory that is there. -/
  | vacant (location : Location)
deriving DecidableEq, Repr

namespace Tree

/-- A tree with nothing but the directory where paths begin. -/
def scratch : Tree := ⟨[(["scratch"], .directory)], ["scratch"]⟩

/-- What stands at a location. -/
def node? (tree : Tree) (location : Location) : Option Node :=
  if location = [] then some .directory else tree.nodes.lookup location

/-- The tree with something else, or something new, at a location. -/
def put (tree : Tree) (location : Location) (node : Node) : Tree :=
  { tree with nodes := (location, node) :: tree.nodes.filter (·.1 != location) }

@[simp] theorem here_put (tree : Tree) (location : Location) (node : Node) :
    (tree.put location node).here = tree.here := rfl

theorem node?_put_self (tree : Tree) {location : Location} (node : Node)
    (inside : location ≠ []) : (tree.put location node).node? location = some node := by
  simp [node?, put, inside]

theorem node?_put_of_ne (tree : Tree) {location other : Location} (node : Node)
    (differ : other ≠ location) : (tree.put location node).node? other = tree.node? other := by
  unfold node? put
  split
  · rfl
  · have unequal : (other == location) = false := by simpa using differ
    simp only [List.lookup_cons, unequal]
    induction tree.nodes with
    | nil => rfl
    | cons entry rest ih =>
      obtain ⟨place, found⟩ := entry
      by_cases same : place = location
      · have skipped : (other == place) = false := by simpa [same] using differ
        simpa [same, List.lookup_cons, skipped, unequal] using ih
      · have kept : (place != location) = true := by simpa using same
        simp only [List.filter_cons, kept, if_true, List.lookup_cons]
        cases other == place with
        | true => rfl
        | false => exact ih

/-! ## Walking a path -/

/-- Walks the parts of a path from a location. -/
def walk (tree : Tree) : Location → (parts : List String) → Except Errno Target
  | location, [] =>
    match tree.node? location with
    | none => .error .noEntry
    | some node => .ok (.present location node)
  | location, part :: rest =>
    match tree.node? location with
    | none => .error .noEntry
    | some (.file _) => .error .notDirectory
    | some .directory =>
      if part = "" ∨ part = "." then walk tree location rest
      else if part = ".." then walk tree location.dropLast rest
      else if nameLimit < Utf8.size part then .error .nameTooLong
      else if tree.node? (location ++ [part]) = none ∧ rest = [] then
        .ok (.vacant (location ++ [part]))
      else walk tree (location ++ [part]) rest

/-- Where a path leads. -/
def find (tree : Tree) (path : String) : Except IoError Target :=
  if '\x00' ∈ path.toList then .error .nulInPath
  else if path = "" then .error (.system .noEntry)
  else if pathLimit ≤ Utf8.size path then .error (.system .nameTooLong)
  else
    let start := if isAbsolute path then [] else tree.here
    match tree.walk start (parts path) with
    | .error code => .error (.system code)
    | .ok target => .ok target

/-! ## Files and directories -/

def isDirectory (tree : Tree) (path : String) : Bool :=
  match tree.find path with
  | .ok (.present _ .directory) => true
  | _ => false

def read (tree : Tree) (path : String) : Except IoError Bytes :=
  match tree.find path with
  | .error failure => .error failure
  | .ok (.vacant _) => .error (.system .noEntry)
  | .ok (.present _ .directory) => .error (.system .isDirectory)
  | .ok (.present _ (.file content)) => .ok content

def readText (tree : Tree) (path : String) : Except IoError String :=
  match tree.read path with
  | .error failure => .error failure
  | .ok content =>
    match Utf8.decode? content with
    | none => .error .notText
    | some text => .ok text

/-- Gives a file a new content, and creates it if there is none. -/
def write (tree : Tree) (path : String) (content : Bytes) : Except IoError Tree :=
  match tree.find path with
  | .error failure => .error failure
  | .ok (.vacant location) => .ok (tree.put location (.file content))
  | .ok (.present _ .directory) => .error (.system .isDirectory)
  | .ok (.present location (.file _)) => .ok (tree.put location (.file content))

/-- Adds bytes at the end of a file that is there. -/
def append (tree : Tree) (path : String) (piece : Bytes) : Except IoError Tree :=
  match tree.find path with
  | .error failure => .error failure
  | .ok (.vacant _) => .error (.system .noEntry)
  | .ok (.present _ .directory) => .error (.system .isDirectory)
  | .ok (.present location (.file content)) => .ok (tree.put location (.file (content ++ piece)))

/-! ## Building a tree -/

/-- The tree with a directory at a location where nothing stands. -/
def putDirectory (tree : Tree) (location : Location) : Tree :=
  if tree.node? location = none then tree.put location .directory else tree

/-- Creates the directories on the way through `names` from a location. -/
def makeDirectories (tree : Tree) : Location → (names : List String) → Tree
  | _, [] => tree
  | location, name :: rest =>
    makeDirectories (tree.putDirectory (location ++ [name])) (location ++ [name]) rest

/-- Where one part of a path leads from a location, if directories are on the way. -/
def follow (location : Location) (part : String) : Location :=
  if part = "" ∨ part = "." then location
  else if part = ".." then location.dropLast
  else location ++ [part]

/-- The location that a path names. -/
def locate (tree : Tree) (path : String) : Location :=
  (parts path).foldl follow (if isAbsolute path then [] else tree.here)

/-- Creates a directory and those above it. -/
def plantDirectory (tree : Tree) (path : String) : Tree :=
  tree.makeDirectories [] (tree.locate path)

/-- Creates a file and the directories above it. -/
def plantFile (tree : Tree) (path : String) (content : Bytes) : Tree :=
  let location := tree.locate path
  (tree.makeDirectories [] location.dropLast).put location (.file content)

end Tree

end ProbeStream.Fs
