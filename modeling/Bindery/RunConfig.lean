import Bindery.Catalog.Basic
import Bindery.Catalog.Selection
import Bindery.Settings
import Bindery.Yaml.Record

/-!
# Run configurations

What one run works on and how: names to include and to leave out, and settings. A
configuration is a file of JSON or of YAML, as the extension of its name says. JSON is
read here in full. How YAML is read is left open, as a `YamlReader`; the one that is
given, `YamlReader.plain`, reads the part of YAML that `Yaml.Token` tells.
-/

namespace Bindery

/-- What one run works on and how. -/
structure RunConfig where
  included : List String := []
  excluded : List String := []
  settings : Settings := {}
deriving Repr, DecidableEq

/-- Why a file that a run needs is refused. -/
inductive InputError where
  | unreadable (path : String) (cause : FileError)
  | unknownExtension (extension : Option String)
  | badJson (cause : Json.Error)
  /-- The text is no configuration in YAML, with what its reader says about it. -/
  | badYaml (message : String)
  | badCatalog (cause : CatalogError)

namespace InputError

/-- An extension as it is told, with its absence. -/
def describe : Option String → String
  | some e => "Some(" ++ Text.quoted e ++ ")"
  | none => "None"

def message : InputError → String
  | unreadable path cause => "failed to read " ++ path ++ ": " ++ cause.message
  | unknownExtension e =>
    "unknown config extension " ++ describe e ++ " (expected .json, .yaml or .yml)"
  | badJson cause => "invalid JSON config: " ++ cause.message
  | badYaml message => "invalid YAML config: " ++ message
  | badCatalog cause => cause.message

end InputError

def readInput (t : FileTree) (path : String) : Except InputError String :=
  match t.readText path with
  | .ok text => .ok text
  | .error e => .error (.unreadable path e)

def Catalog.load (t : FileTree) (path : String) : Except InputError Catalog := do
  match ofJson (← readInput t path) with
  | .ok c => return c
  | .error e => throw (.badCatalog e)

namespace RunConfig

def selection (c : RunConfig) : Selection := ⟨c.included, c.excluded⟩

/-- The members that a configuration is read from, whatever it is written in. -/
def members {δ ε : Type} (texts : δ → Except ε (List String)) (settings : δ → Except ε Settings) :
    List (Member δ ε RunConfig) := [
  .of "include" false texts fun x c => { c with included := x },
  .of "exclude" false texts fun x c => { c with excluded := x },
  .of "codegen" false settings fun x c => { c with settings := x }]

def record : Json.Record RunConfig where
  title := "RunConfig"
  blank := {}
  members := members Json.Draft.texts Settings.record.decode
  closed := true

def ofJson (text : String) : Except Json.Error RunConfig := Json.decodeText record.decode text

def ofNode : Yaml.Node → Except Yaml.Error RunConfig :=
  Yaml.decodeRecord
    (members Yaml.Node.texts
      (Yaml.decodeRecord (Settings.members Yaml.Node.text Yaml.Node.texts) {})) {}

def ofYaml (text : String) : Except Yaml.Error RunConfig := do
  ofNode (← Yaml.Node.ofText text)

end RunConfig

/-- What reads the text of a configuration in YAML: the configuration, or a message about what is
wrong with the text. -/
class YamlReader where
  read : String → Except String RunConfig

/-- The reader for configurations without anchors, aliases, tags, block scalars and directives. -/
instance YamlReader.plain : YamlReader where
  read text := (RunConfig.ofYaml text).mapError Yaml.Error.message

namespace RunConfig

/-- How a configuration can be written. -/
inductive Format where
  | json
  | yaml
deriving Repr, DecidableEq

/-- The format that an extension in lower case stands for. -/
def Format.ofExtension? : String → Option Format
  | "json" => some json
  | "yaml" => some yaml
  | "yml" => some yaml
  | _ => none

variable [YamlReader]

/-- Reads a configuration that is written in a format. -/
def ofText (format : Format) (text : String) : Except InputError RunConfig :=
  match format with
  | .json =>
    match ofJson text with
    | .ok c => .ok c
    | .error e => .error (.badJson e)
  | .yaml =>
    match YamlReader.read text with
    | .ok c => .ok c
    | .error message => .error (.badYaml message)

def load (t : FileTree) (path : String) : Except InputError RunConfig :=
  let extension := (FileTree.extension? path).map Text.lowerCase
  match extension.bind Format.ofExtension? with
  | some format => do ofText format (← readInput t path)
  | none => .error (.unknownExtension extension)

end RunConfig

end Bindery
