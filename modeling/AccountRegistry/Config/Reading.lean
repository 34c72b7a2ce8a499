import AccountRegistry.Config.Basic
import AccountRegistry.Config.Directory
import AccountRegistry.Json.Document
import AccountRegistry.Toml.Document

set_option autoImplicit false

/-!
# Reading a configuration

From a text in TOML over the defaults, or from the settings file of a directory
over the defaults and the environment over both. A settings file that is not
there or not text is passed over; one that is malformed is refused, whatever the
environment says.

Some things are left open here. The entries of a layer take effect in the order
in which they are written, and the settings are checked in one order, although
maps go through their entries in any; of two settings files the one in TOML is
read, although either may be. Files in YAML, INI, RON and JSON5 are not looked
at. The words in which a parser refuses a text are its own.
-/
namespace AccountRegistry.Config
open AccountRegistry.Settings (Layer Value latest)

def fileName : String := "registry"

def variablePrefix : String := "USER_REGISTRY"

inductive Format where
  | toml
  | json
deriving DecidableEq, Repr

def Format.fileName : Format → String
  | .toml => Config.fileName ++ ".toml"
  | .json => Config.fileName ++ ".json"

def Format.entries? : Format → String → Option (List (String × Value))
  | .toml => Toml.read?
  | .json => Json.read?

/-- The words in which a text is refused by the parser of a format. -/
class Parsers where
  refusal : Format → String → String

/-- Words to run the program with where those of the parsers do not matter. -/
instance Parsers.terse : Parsers where
  refusal
    | .toml, _ => "malformed TOML"
    | .json, _ => "malformed JSON"

def textLayer [Parsers] (format : Format) (origin : Option String) (text : String) :
    Except Fault Layer :=
  match format.entries? text with
  | some entries => .ok ⟨origin, entries⟩
  | none => .error (.refused (.fileParse (Parsers.refusal format text) origin))

def ofToml [Parsers] (text : String) : Except Fault Config := do
  ofLayers [← textLayer .toml none text]

/-- The format of the settings file in a directory. A file of the bare name hides all others and
is itself in no format. -/
def format? (d : Directory) : Option Format :=
  if d.isFile fileName then none
  else if d.isFile Format.toml.fileName then some .toml
  else if d.isFile Format.json.fileName then some .json
  else none

def settingsText? (d : Directory) : Option (Format × String) := do
  let format ← format? d
  return (format, ← d.text? format.fileName)

def fileLayer [Parsers] (d : Directory) : Except Fault Layer :=
  match settingsText? d with
  | some (format, text) => textLayer format (some format.fileName) text
  | none => .ok ⟨none, []⟩

/-- The lower case of the letters that matter in names of variables: those of ASCII, and the one
sign beyond whose lower case is among them. -/
def lowered (c : Char) : Char :=
  if 'A' ≤ c ∧ c ≤ 'Z' then Char.ofNat (c.toNat + 32)
  else if c = '\u212a' then 'k'
  else c

def variableKey? (name : String) : Option String :=
  let mark := (variablePrefix.toList ++ ['_']).map lowered
  let cs := name.toList.map lowered
  if mark.isPrefixOf cs then some (String.ofList (cs.drop mark.length)) else none

def variableEntries (env : Environment) : List (String × Value) :=
  env.filterMap fun (name, text) => (variableKey? name).map fun key => (key, Value.ofString text)

def environmentLayer (env : Environment) : Layer where
  origin := none
  entries := latest (variableEntries env)

def load [Parsers] (d : Directory) (env : Environment) : Except Fault Config := do
  ofLayers [← fileLayer d, environmentLayer env]

/-- Loads from the variables as they are handed over. One that is not text breaks reading off, but
not before the settings file was read. -/
def loadFrom [Parsers] (d : Directory) (b : Block) : Except Fault Config :=
  match b.variables? with
  | some env => load d env
  | none => (fileLayer d).bind fun _ => .error .aborted

end AccountRegistry.Config
