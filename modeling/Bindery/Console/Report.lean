import Bindery.Console.Line
import Bindery.Event
import Bindery.RunConfig

/-!
# Reports

What a command leaves behind: the lines that it has printed, the story of its
generation, how it has ended, and the files as they are then.
-/

namespace Bindery

/-- The messages of a failure, outermost first: each is caused by the next. -/
def CatalogError.chain (e : CatalogError) : List String :=
  match e with
  | .json cause => [e.message, cause.message]
  | .file cause => [e.message, cause.message]
  | _ => [e.message]

/-- The messages of a failure, outermost first. -/
def GenerationError.chain (e : GenerationError) : List String :=
  match e with
  | .catalog cause => cause.chain
  | _ => [e.message]

/-- The messages of a failure, outermost first. -/
def InputError.chain (e : InputError) : List String :=
  match e with
  | .unreadable _ cause => [e.message, cause.message]
  | .unknownExtension _ => [e.message]
  | .badJson cause => [e.message, cause.message]
  | .badYaml message => [e.message, message]
  | .badCatalog cause => cause.chain

namespace Console

/-- Why a command gives up. -/
inductive Failure where
  | target (cause : GenerationError)
  | catalog (path : String) (cause : InputError)
  | config (path : String) (cause : InputError)
  | settings (cause : GenerationError)
  | directory (path : String) (cause : FileError)
  | write (path : String) (cause : FileError)
  | summary (cause : GenerationError)
  | search (cause : GenerationError)

/-- The messages of a failure, outermost first. -/
def Failure.chain : Failure → List String
  | .target cause => cause.chain
  | .catalog path cause => ("Failed to load catalog: " ++ path) :: cause.chain
  | .config path cause => ("Failed to load config: " ++ path) :: cause.chain
  | .settings cause => "Invalid codegen config" :: cause.chain
  | .directory path cause => ["Failed to create output directory: " ++ path, cause.message]
  | .write path cause => ["Failed to write " ++ path, cause.message]
  | .summary cause => "Failed to summarize types" :: cause.chain
  | .search cause => "Failed to search parameters" :: cause.chain

/-- What a command leaves behind. -/
structure Report where
  /-- The files at the end. -/
  files : FileTree
  lines : List Line := []
  events : List Event := []
  /-- Why the command has given up, or else its exit code. -/
  outcome : Except Failure Nat

namespace Report

def after (lines : List Line) (r : Report) : Report := { r with lines := lines ++ r.lines }

def failed (t : FileTree) (f : Failure) : Report := { files := t, outcome := .error f }

/-- The report of a command that ends with an exit code. -/
def ended (t : FileTree) (lines : List Line) (code : Nat) : Report :=
  { files := t, lines := lines, outcome := .ok code }

end Report

def labelled (label : String) (s : String) : Line := [⟨.heading, label⟩, " " ++ s]

def codedLine {ε : Type} [Coded ε] (e : ε) : Line :=
  ["  ", ⟨.bad, "x"⟩, " [", ⟨.bad, Coded.code e⟩, "] " ++ Coded.message e]

def loadCatalog (t : FileTree) (path : String) : Except Failure Catalog :=
  match Catalog.load t path with
  | .ok c => .ok c
  | .error e => .error (.catalog path e)

variable [YamlReader]

def loadConfig (t : FileTree) (path : String) : Except Failure RunConfig :=
  match RunConfig.load t path with
  | .ok c => .ok c
  | .error e => .error (.config path e)

def loadInputs (t : FileTree) (catalog config : String) : Except Failure (Catalog × RunConfig) := do
  let c ← loadCatalog t catalog
  let r ← loadConfig t config
  return (c, r)

end Console

end Bindery
