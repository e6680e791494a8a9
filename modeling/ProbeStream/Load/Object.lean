import ProbeStream.Bpf.Relocate
import ProbeStream.Load.Attach
import ProbeStream.Load.Provision

/-!
# Loading an object

An object is loaded in three passes over its sections, in the order of their numbers:

1. The sections `license`, `version` and `maps` are read, and every map is created. Of several
   sections of one name the last one counts.
2. Each relocation section is resolved against the program that it targets, and that program is
   attached at once.
3. The programs that no relocation section targets are attached as they are.

A program whose relocations or whose name are malformed is reported and left out. A malformed
`version` or `maps` section ends the load, and so does a relocated program in an object without
symbols, and everything that the kernel or the tracing directory refuses.
-/

namespace ProbeStream

/-- Everything that was created for one object. -/
structure LoadedObject where
  license : String
  kernelVersion : UInt32
  maps : Bpf.MapTable
  programs : List LoadedProgram
deriving DecidableEq, Repr

/-- The first map of a name. -/
def LoadedObject.map? (loaded : LoadedObject) (name : String) : Option Bpf.LiveMap :=
  loaded.maps.byName? name

/-- What the first pass finds. -/
structure Metadata where
  license : String
  kernelVersion : UInt32
  maps : Bpf.MapTable
deriving DecidableEq, Repr

/-- The license that a section holds: its text up to the first NUL. -/
def licenseText (data : Bytes) : String := Utf8.decodeLossy data.beforeNul

namespace Load

variable {σ : Type}

/-! ## Metadata and maps -/

def readVersion (order : ByteOrder) (data : Bytes) : Load σ UInt32 :=
  if data.length = 4 then return order.u32At data 0
  else throw (.format s!"invalid size of version section {data.length}")

/-- Creates the maps that a section defines. -/
def readMaps (kernel : Kernel σ) (image : Elf.Image) (part : Elf.Section) :
    Load σ Bpf.MapTable := do
  let definitions ← require (Bpf.mapDefinitions image.order part.data) fun fault =>
    .format fault.message
  let names := match image.symbols with
    | some symbols => Bpf.mapNames symbols part.number definitions.length
    | none => List.replicate definitions.length none
  provision kernel definitions names

/-- Reads what one section says about the whole object. -/
def readSection (kernel : Kernel σ) (image : Elf.Image) (found : Metadata) (part : Elf.Section) :
    Load σ Metadata :=
  if part.name = "license" then return { found with license := licenseText part.data }
  else if part.name = "version" then do
    return { found with kernelVersion := ← readVersion image.order part.data }
  else if part.name = "maps" then do
    return { found with maps := ← readMaps kernel image part }
  else return found

/-- Reads what the sections say about the whole object. -/
def readSections (kernel : Kernel σ) (image : Elf.Image) :
    List Elf.Section → Metadata → Load σ Metadata
  | [], found => pure found
  | part :: rest, found => do
    readSections kernel image rest (← readSection kernel image found part)

/-- The first pass. -/
def readMetadata (kernel : Kernel σ) (image : Elf.Image) : Load σ Metadata := do
  let found ← readSections kernel image image.sections ⟨"", 0, .empty⟩
  if found.license = "" then note .warn "object has no license section"
  if found.maps.isEmpty then note .debug "object declares no maps"
  return found

/-! ## Programs -/

/-- Reports a program that is left out. -/
def skip (name complaint : String) : Load σ Unit :=
  note .warn s!"skipping `{name}`: {(LoadError.format complaint).message}"

/-- Attaches the program of a section, if its name gives a category. -/
def attachSection (kernel : Kernel σ) (attacher : Attacher) (part : Elf.Section)
    (programs : List LoadedProgram) : Load σ (List LoadedProgram) :=
  match Bpf.Category.ofSectionName part.name with
  | .error fault => do
    skip part.name fault.message
    return programs
  | .ok category => do
    let program ← attacher.attach kernel part.name category part.data
    return programs ++ [program]

/-- Resolves the entries of a relocation section against the bytes of its target. Gives the
target with its new bytes, if all entries are good. -/
def resolve (image : Elf.Image) (maps : Bpf.MapTable) (relocation target : Elf.Section) :
    Load σ (Option Elf.Section) :=
  match image.symbols with
  | none =>
    throw (.format s!"relocations for `{target.name}` but the object has no symbol table")
  | some symbols =>
    match Bpf.relocate image.order target.data relocation.relocations symbols maps with
    | .error fault => do
      skip target.name fault.message
      return none
    | .ok (data, patches) => do
      noteAll (patches.map fun patch => ⟨.debug, patch.describe⟩)
      note .debug s!"{target.name}: {patches.length} map references resolved"
      return some { target with data := data }

/-- Marks a relocation section and its target as dealt with. -/
def mark (done : List Nat) (relocation : Elf.Section) : List Nat :=
  done ++ [relocation.number, relocation.info.toNat]

/-- The second pass, over the relocation sections that are left. The numbers of the sections that it
has dealt with are `done`. -/
def attachRelocated (kernel : Kernel σ) (attacher : Attacher) (maps : Bpf.MapTable) :
    (relocations : List Elf.Section) → Elf.Image → (done : List Nat) → List LoadedProgram →
      Load σ (Elf.Image × List Nat × List LoadedProgram)
  | [], image, done, programs => pure (image, done, programs)
  | relocation :: rest, image, done, programs =>
    match image.section? relocation.info.toNat with
    | none => attachRelocated kernel attacher maps rest image done programs
    | some target =>
      if Bpf.Category.isProgramSection target.name then do
        match ← resolve image maps relocation target with
        | none => attachRelocated kernel attacher maps rest image (mark done relocation) programs
        | some resolved =>
          let image := image.withData target.number resolved.data
          let programs ← attachSection kernel attacher resolved programs
          attachRelocated kernel attacher maps rest image (mark done relocation) programs
      else do
        note .debug s!"ignoring relocations for non-program section {target.name}"
        attachRelocated kernel attacher maps rest image (mark done relocation) programs

/-- The third pass, over the sections that are left. Those that the first pass reads need no mark,
since none of them has the name of a program. -/
def attachRemaining (kernel : Kernel σ) (attacher : Attacher) (done : List Nat) :
    List Elf.Section → List LoadedProgram → Load σ (List LoadedProgram)
  | [], programs => pure programs
  | part :: rest, programs =>
    if part.number ∉ done ∧ Bpf.Category.isProgramSection part.name then do
      attachRemaining kernel attacher done rest
        (← attachSection kernel attacher part programs)
    else attachRemaining kernel attacher done rest programs

/-! ## The whole load -/

/-- Removes the probes that are registered, if that is possible, and goes through the first
pass. -/
def prepare (kernel : Kernel σ) (tracefs : Tracefs) (image : Elf.Image) : Load σ Metadata := do
  if let .error failure ← changeFiles tracefs.clearKprobes then
    note .debug s!"unable to clear kprobes: {failure.message}"
  readMetadata kernel image

/-- The second and the third pass. -/
def attachPrograms (kernel : Kernel σ) (tracefs : Tracefs) (image : Elf.Image) (found : Metadata) :
    Load σ LoadedObject := do
  let attacher : Attacher := ⟨tracefs, found.license, found.kernelVersion⟩
  let (patched, done, programs) ← attachRelocated kernel attacher found.maps
    (image.sections.filter (·.isRelocation)) image [] []
  let programs ← attachRemaining kernel attacher done patched.sections programs
  note .info s!"{found.maps.size} maps, {programs.length} programs loaded"
  return ⟨found.license, found.kernelVersion, found.maps, programs⟩

/-- The three passes. -/
def passes (kernel : Kernel σ) (tracefs : Tracefs) (image : Elf.Image) :
    Load σ LoadedObject := do
  attachPrograms kernel tracefs image (← prepare kernel tracefs image)

/-- Loads an image. A failed load gives up the events that it holds. -/
def loadImage (kernel : Kernel σ) (tracefs : Tracefs) (image : Elf.Image) :
    Load σ LoadedObject := fun session =>
  match passes kernel tracefs image session with
  | (.ok loaded, session) => (.ok loaded, session)
  | (.error failure, session) => (.error failure, release kernel session)

def parseImage (content : Bytes) : Load σ Elf.Image := do
  let (parsed, log) := Elf.Image.parse content
  noteAll log
  require parsed fun fault => .format fault.message

def loadBytes (kernel : Kernel σ) (tracefs : Tracefs) (content : Bytes) :
    Load σ LoadedObject := do
  loadImage kernel tracefs (← parseImage content)

def loadFile (kernel : Kernel σ) (tracefs : Tracefs) (path : String) : Load σ LoadedObject := do
  let content ← require (← readFiles (·.read path)) fun failure =>
    .format s!"unable to read {path}: {failure.message}"
  let image ← parseImage content
  note .info s!"loading {path}"
  loadImage kernel tracefs image

end Load

end ProbeStream
