import ProbeStream.Config

/-!
# The command line

The command line names an object and may set options. It is read from the left:

- `--name=value` and `--name value` set an option; a value that stands apart must not look like
  an option itself;
- `-v` and `--verbose` raise the verbosity, at most to 255; single letters may stand together;
- everything behind `--` is an argument, whatever it looks like;
- a value that stands apart, and the object, are only checked once the next argument has been
  recognised or the line has ended. So of a bad value and an unknown option behind it, the
  option is reported.

The first error wins.
-/

namespace ProbeStream.CommandLine

/-- Why a command line gives no settings. -/
inductive Fault where
  | displayHelp
  | displayVersion
  | unknownArgument
  | invalidValue
  | valueValidation
  | argumentConflict
  | tooManyValues
  | missingRequiredArgument
deriving DecidableEq, Repr

namespace Fault

/-- The exit code of the program. Asking for help or the version is no failure. -/
def exitCode : Fault → Nat
  | .displayHelp => 0
  | .displayVersion => 0
  | _ => 2

def name : Fault → String
  | .displayHelp => "DisplayHelp"
  | .displayVersion => "DisplayVersion"
  | .unknownArgument => "UnknownArgument"
  | .invalidValue => "InvalidValue"
  | .valueValidation => "ValueValidation"
  | .argumentConflict => "ArgumentConflict"
  | .tooManyValues => "TooManyValues"
  | .missingRequiredArgument => "MissingRequiredArgument"

/-- What is wrong with the command line. -/
def complaint : Fault → String
  | .displayHelp => "help was asked for"
  | .displayVersion => "the version was asked for"
  | .unknownArgument => "there is an argument that is not known"
  | .invalidValue => "a value is missing or is not one of those allowed"
  | .valueValidation => "a value is not a number that fits"
  | .argumentConflict => "an option is set twice"
  | .tooManyValues => "an option without a value has one"
  | .missingRequiredArgument => "no object is named"

end Fault

/-- The options without a value. -/
inductive Switch where
  | verbose
  | help
  | version
deriving DecidableEq, Repr

/-- The options with a value. -/
inductive Setting where
  | tracefs
  | format
  | pages
  | v4Map
  | v6Map
deriving DecidableEq, Repr

/-- An argument that was recognised and not yet checked. -/
inductive Pending where
  | setting (setting : Setting) (value : Option String)
  | object (path : String)
deriving DecidableEq, Repr

/-- What was read so far. -/
structure Reading where
  config : Config
  /-- Whether an object was named. -/
  named : Bool
  /-- The options that were set. -/
  given : List Setting
  pending : Option Pending
deriving DecidableEq, Repr

namespace Reading

def start : Reading := ⟨.default, false, [], none⟩

/-- The settings with a new value of one option, if the value is good. -/
def change (config : Config) (setting : Setting) (value : String) : Except Fault Config :=
  match setting with
  | .tracefs => if value = "" then .error .invalidValue else .ok { config with tracefs := value }
  | .format =>
    if value = OutputFormat.text.name then .ok { config with format := .text }
    else if value = OutputFormat.json.name then .ok { config with format := .json }
    else .error .invalidValue
  | .pages =>
    match Text.Decimal.read? (UInt64.size - 1) value.toList with
    | none => .error .valueValidation
    | some pages => .ok { config with pages := UInt64.ofNat pages }
  | .v4Map => .ok { config with v4Map := value }
  | .v6Map => .ok { config with v6Map := value }

/-- Sets an option, which must not be set already. -/
def assign (reading : Reading) (setting : Setting) (value : String) : Except Fault Reading :=
  if setting ∈ reading.given then .error .argumentConflict
  else (change reading.config setting value).map fun config =>
    { reading with config, given := setting :: reading.given }

/-- Checks what is pending. -/
def settle (reading : Reading) : Except Fault Reading :=
  let rest := { reading with pending := none }
  match reading.pending with
  | none => .ok reading
  | some (.setting _ none) => .error .invalidValue
  | some (.setting setting (some value)) => rest.assign setting value
  | some (.object path) =>
    if path = "" then .error .invalidValue
    else .ok { rest with config := { rest.config with objectPath := path } }

/-- Acts on a switch. -/
def flip (reading : Reading) : Switch → Except Fault Reading
  | .help => .error .displayHelp
  | .version => .error .displayVersion
  | .verbose =>
    .ok { reading with
      config := { reading.config with verbosity := min 255 (reading.config.verbosity + 1) } }

/-- Checks what is pending and acts on a switch. -/
def settleAndFlip (reading : Reading) (switch : Switch) : Except Fault Reading :=
  reading.settle.bind (·.flip switch)

end Reading

def switchOfLetter? (letter : Char) : Option Switch :=
  if letter = 'v' then some .verbose
  else if letter = 'h' then some .help
  else if letter = 'V' then some .version
  else none

def switchOfName? (name : String) : Option Switch :=
  [("verbose", Switch.verbose), ("help", .help), ("version", .version)].lookup name

/-- The option with a value that has a name. -/
def settingOfName? (name : String) : Option Setting :=
  [("tracefs", Setting.tracefs), ("format", .format), ("perf-pages", .pages),
    ("v4-map", .v4Map), ("v6-map", .v6Map)].lookup name

/-- Reads letters that stand together. -/
def readLetters : List Char → Reading → Except Fault Reading
  | [], reading => .ok reading
  | letter :: rest, reading =>
    match switchOfLetter? letter with
    | none => .error .unknownArgument
    | some switch => (reading.settleAndFlip switch).bind (readLetters rest)

/-- The name of a long option, and the value behind the first equals sign. -/
def splitLong (text : List Char) : String × Option String :=
  let name := text.takeWhile (· != '=')
  let value := (text.drop name.length).tail?.map String.ofList
  (String.ofList name, value)

def readLong (text : List Char) (reading : Reading) : Except Fault Reading :=
  let (name, value) := splitLong text
  match switchOfName? name, settingOfName? name with
  | some switch, _ =>
    if value.isSome then .error .tooManyValues else reading.settleAndFlip switch
  | none, some setting =>
    match value with
    | some value => reading.settle.bind (·.assign setting value)
    | none => reading.settle.map ({ · with pending := some (.setting setting none) })
  | none, none => .error .unknownArgument

/-- Reads an argument that names the object. -/
def readObject (path : String) (reading : Reading) : Except Fault Reading :=
  if reading.named then .error .unknownArgument
  else reading.settle.map ({ · with named := true, pending := some (.object path) })

/-- Reads an argument that does not look like an option. -/
def readPlain (text : String) (reading : Reading) : Except Fault Reading :=
  match reading.pending with
  | some (.setting setting none) =>
    .ok { reading with pending := some (.setting setting (some text)) }
  | _ => readObject text reading

/-- Reads one argument in front of `--`. -/
def readArgument (argument : String) (reading : Reading) : Except Fault Reading :=
  match argument.toList with
  | '-' :: '-' :: name => readLong name reading
  | '-' :: letter :: letters => readLetters (letter :: letters) reading
  | _ => readPlain argument reading

/-- Reads arguments; `plain` says whether `--` was among them already. -/
def readArguments : (plain : Bool) → List String → Reading → Except Fault Reading
  | _, [], reading => reading.settle
  | true, argument :: rest, reading =>
    (readObject argument reading).bind (readArguments true rest)
  | false, argument :: rest, reading =>
    if argument = "--" then readArguments true rest reading
    else (readArgument argument reading).bind (readArguments false rest)

/-- How the program is called. -/
def usage : String := "\n".intercalate
  ["Usage: probestream [OPTIONS] <OBJECT>",
    "",
    "Load a compiled BPF object and print the TCP events that it emits.",
    "",
    "  -v, --verbose            Log more (-v info, -vv debug, -vvv trace)",
    "      --tracefs <PATH>     The tracing directory",
    "      --format <FORMAT>    text or json",
    "      --perf-pages <PAGES> Data pages in each ring (a power of two)",
    "      --v4-map <NAME>      The map that carries IPv4 events",
    "      --v6-map <NAME>      The map that carries IPv6 events",
    "  -h, --help               Print help",
    "  -V, --version            Print the version",
    ""]

def version : String := "probestream 0.1.0\n"

/-- The settings that a command line gives. -/
def parse (arguments : List String) : Except Fault Config :=
  match readArguments false arguments .start with
  | .error fault => .error fault
  | .ok reading => if reading.named then .ok reading.config else .error .missingRequiredArgument

end ProbeStream.CommandLine
