import ProbeStream.Elf.Image

/-!
# Laying out objects

A *plan* lists the sections and symbols of an object. Its layout is an object file that holds
them, so `Plan.layout` is the other direction of `Image.parse`.

- The file header comes first, then the bytes of all sections, each at a multiple of eight, and
  last the section table.
- Section zero is empty. The planned sections follow in order, then the symbols and their names,
  if there are symbols, and in the end the names of the sections.
- A table of strings is a NUL and then every string with a NUL behind it.
-/

namespace ProbeStream.Elf

/-- What a planned section holds. -/
inductive Body where
  | data (bytes : Bytes)
  | relocations (entries : List Relocation)
deriving DecidableEq, Repr

/-- A section that is to be laid out. -/
structure PlannedSection where
  name : String
  flags : UInt64
  info : UInt32
  body : Body
deriving DecidableEq, Repr

/-- The sections, from number one on, and the symbols, from number one on. -/
structure Plan where
  sections : List PlannedSection
  symbols : List Symbol
deriving DecidableEq, Repr

/-! ## Entries -/

def zeros (count : Nat) : Bytes := List.replicate count 0

/-- The byte that names a byte order. -/
def encodingByte : ByteOrder → UInt8
  | .little => 1
  | .big => 2

/-- A section of bytes that the file format knows nothing about. -/
def typeProgramBits : UInt32 := 1

/-- The machine number of BPF objects. -/
def machineBpf : Nat := 247

/-- A file header that says where the section table stands, how many entries it has, and which of
them has the names. -/
def headerBytes (order : ByteOrder) (tableOffset entryCount nameTable : Nat) : Bytes :=
  magic ++ [encodingByte order, 1, 0] ++ zeros 8 ++ order.encode 2 1 ++
    order.encode 2 machineBpf ++ order.encode 4 1 ++ zeros 16 ++ order.encode 8 tableOffset ++
    zeros 4 ++ order.encode 2 headerSize ++ zeros 4 ++ order.encode 2 sectionHeaderSize ++
    order.encode 2 entryCount ++ order.encode 2 nameTable

@[simp] theorem length_headerBytes (order : ByteOrder) (tableOffset entryCount nameTable : Nat) :
    (headerBytes order tableOffset entryCount nameTable).length = headerSize := by
  simp [headerBytes, magic, zeros, headerSize]

namespace SectionHeader

/-- A section header in bytes, for entries of `entrySize` bytes. -/
def toBytes (order : ByteOrder) (entrySize : Nat) (header : SectionHeader) : Bytes :=
  order.u32 header.name ++ order.u32 header.type ++ order.u64 header.flags ++ zeros 8 ++
    order.u64 header.offset ++ order.u64 header.size ++ order.u32 header.link ++
    order.u32 header.info ++ order.encode 8 8 ++ order.encode 8 entrySize

@[simp] theorem length_toBytes (order : ByteOrder) (entrySize : Nat) (header : SectionHeader) :
    (header.toBytes order entrySize).length = sectionHeaderSize := by
  simp [toBytes, zeros, sectionHeaderSize]

end SectionHeader

/-- The relocation type for references to maps. -/
def relocationType : Nat := 1

def Relocation.toBytes (order : ByteOrder) (entry : Relocation) : Bytes :=
  order.u64 entry.offset ++ order.encode 8 (entry.symbol * UInt32.size + relocationType)

/-- The byte of a symbol that says: a global object. -/
def globalObject : UInt8 := 0x11

/-- A symbol in bytes, whose name begins at `nameStart` of the names. -/
def Symbol.toBytes (order : ByteOrder) (nameStart : Nat) (symbol : Symbol) : Bytes :=
  order.encode 4 nameStart ++ [globalObject, 0] ++ order.encode 2 symbol.sectionNumber ++
    order.u64 symbol.value ++ zeros 8

@[simp] theorem Relocation.length_toBytes (order : ByteOrder) (entry : Relocation) :
    (entry.toBytes order).length = relocationSize := by
  simp [Relocation.toBytes, relocationSize]

@[simp] theorem Symbol.length_toBytes (order : ByteOrder) (nameStart : Nat) (symbol : Symbol) :
    (symbol.toBytes order nameStart).length = symbolSize := by
  simp [Symbol.toBytes, zeros, symbolSize]

/-! ## Tables of strings -/

def stringBytes (strings : List String) : Bytes :=
  0 :: strings.flatMap fun text => Utf8.encode text ++ [0]

/-- Where each string begins, if the first begins at `start`. -/
def stringStarts : (start : Nat) → List String → List Nat
  | _, [] => []
  | start, text :: rest => start :: stringStarts (start + Utf8.size text + 1) rest

@[simp] theorem length_stringStarts (start : Nat) (strings : List String) :
    (stringStarts start strings).length = strings.length := by
  induction strings generalizing start with
  | nil => rfl
  | cons text rest ih => simp [stringStarts, ih]

/-! ## Parts -/

/-- A section with everything but its place and its number in the names. -/
structure Part where
  name : String
  type : UInt32
  flags : UInt64
  link : Nat
  info : UInt32
  entrySize : Nat
  data : Bytes
deriving DecidableEq, Repr

/-- The part of a planned section, when the symbol table has the number `symbolTable`. -/
def PlannedSection.part (order : ByteOrder) (symbolTable : Nat) (planned : PlannedSection) :
    Part :=
  match planned.body with
  | .data bytes =>
    { name := planned.name, type := typeProgramBits, flags := planned.flags, link := 0,
      info := planned.info, entrySize := 0, data := bytes }
  | .relocations entries =>
    { name := planned.name, type := typeRelocation, flags := 0, link := symbolTable,
      info := planned.info, entrySize := relocationSize,
      data := entries.flatMap (·.toBytes order) }

def stringPart (name : String) (strings : List String) : Part where
  name := name
  type := typeStringTable
  flags := 0
  link := 0
  info := 0
  entrySize := 0
  data := stringBytes strings

namespace Plan

/-- The number of the symbol table, or zero if there is none. -/
def symbolTable (plan : Plan) : Nat :=
  if plan.symbols = [] then 0 else plan.sections.length + 1

/-- The symbols and their names, if there are symbols. Symbol zero is empty. -/
def symbolParts (order : ByteOrder) (plan : Plan) : List Part :=
  if plan.symbols = [] then []
  else
    let names := plan.symbols.map (·.name)
    let entries := (stringStarts 1 names).zip plan.symbols
    [{ name := ".symtab", type := typeSymbolTable, flags := 0, link := plan.symbolTable + 1,
       info := 1, entrySize := symbolSize,
       data := zeros symbolSize ++ entries.flatMap fun (start, symbol) =>
        symbol.toBytes order start },
      stringPart ".strtab" names]

/-- The parts whose names the last part lists. -/
def namedParts (order : ByteOrder) (plan : Plan) : List Part :=
  plan.sections.map (·.part order plan.symbolTable) ++ plan.symbolParts order

/-- All parts, from section number one on. -/
def parts (order : ByteOrder) (plan : Plan) : List Part :=
  let named := plan.namedParts order
  let last := ".shstrtab"
  named ++ [stringPart last (named.map (·.name) ++ [last])]

end Plan

/-! ## Places -/

/-- The next multiple of eight. -/
def alignUp (offset : Nat) : Nat := (offset + 7) / 8 * 8

/-- Where each of some runs of bytes begins, if the first may begin at `offset`. -/
def places : (offset : Nat) → List Bytes → List Nat
  | _, [] => []
  | offset, data :: rest => alignUp offset :: places (alignUp offset + data.length) rest

/-- The runs of bytes at their places, with zeros between them and up to the next place. -/
def placed : (offset : Nat) → List Bytes → Bytes
  | offset, [] => zeros (alignUp offset - offset)
  | offset, data :: rest =>
    zeros (alignUp offset - offset) ++ data ++ placed (alignUp offset + data.length) rest

@[simp] theorem length_places (offset : Nat) (runs : List Bytes) :
    (places offset runs).length = runs.length := by
  induction runs generalizing offset with
  | nil => rfl
  | cons data rest ih => simp [places, ih]

theorem mod_alignUp (offset : Nat) : alignUp offset % 8 = 0 := by
  simp [alignUp]

/-- The entry of the section table for a part. -/
def Part.header (part : Part) (name place : Nat) : SectionHeader where
  name := UInt32.ofNat name
  type := part.type
  flags := part.flags
  offset := UInt64.ofNat place
  size := UInt64.ofNat part.data.length
  link := UInt32.ofNat part.link
  info := part.info

/-- The entries of the section table behind the empty one. -/
def tableBytes (order : ByteOrder) (parts : List Part) : Bytes :=
  let names := stringStarts 1 (parts.map (·.name))
  let starts := places headerSize (parts.map (·.data))
  (parts.zip (names.zip starts)).flatMap fun (part, name, place) =>
    (part.header name place).toBytes order part.entrySize

/-- The object file of a plan. -/
def Plan.layout (order : ByteOrder) (plan : Plan) : Bytes :=
  let parts := plan.parts order
  let bodies := placed headerSize (parts.map (·.data))
  headerBytes order (headerSize + bodies.length) (parts.length + 1) parts.length ++ bodies ++
    zeros sectionHeaderSize ++ tableBytes order parts

end ProbeStream.Elf
