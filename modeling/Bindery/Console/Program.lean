import Bindery.Console.Arguments

/-!
# The program

From a command line and files to what is written to the two outputs, the exit code,
and the files at the end.
-/

namespace Bindery.Console

def programName : String := "algobind"

def programVersion : String := "0.1.0"

/-- The line about the version of a command, or of the program. -/
def versionText (command : Option String) : String :=
  let name :=
    match command with
    | some c => programName ++ "-" ++ c
    | none => programName
  name ++ " " ++ programVersion ++ "\n"

/-- Rows of two columns, the second of which starts behind the widest entry of the first. -/
def columns (rows : List (String × String)) : String :=
  let width := (rows.map (·.1.length)).foldl max 0
  String.join (rows.map fun row =>
    "  " ++ row.1 ++ String.ofList (List.replicate (width - row.1.length + 2) ' ') ++ row.2 ++ "\n")

def Switch.spelled (s : Switch) : String :=
  let letter :=
    match s.letter with
    | some c => "-" ++ String.singleton c ++ ", "
    | none => "    "
  letter ++ "--" ++ s.long ++ if s.takesValue then " <" ++ s.placeholder ++ ">" else ""

def switchesText (switches : List Switch) : String :=
  "Options:\n" ++ columns (switches.map fun s => (s.spelled, s.about))

def programHelp : String :=
  "Native and wrapper bindings from algorithm descriptors\n\n" ++
  "Usage: " ++ programName ++ " [OPTIONS] <COMMAND>\n\n" ++
  "Commands:\n" ++
  columns (commands.map (fun c => (c.name, c.about)) ++
    [("help", "Print this message or the help of the given subcommand(s)")]) ++
  "\n" ++ switchesText commonSwitches

def helpText (command : Option String) : String :=
  match command.bind commandNamed? with
  | some c =>
    c.about ++ "\n\nUsage: " ++ programName ++ " " ++ c.name ++ " [OPTIONS]\n\n" ++
      switchesText (c.switches ++ commonSwitches)
  | none => programHelp

/-- How the program ends. -/
structure Ending where
  /-- The files at the end. -/
  files : FileTree
  code : Nat
  stdout : String := ""
  stderr : String := ""
  /-- The events that are logged. -/
  log : List Event := []

/-- The exit code of a command that has given up. -/
def failureCode : Nat := 1

/-- The exit code where a command line asks for nothing that there is. -/
def misuseCode : Nat := 2

/-- The line about a failure: its messages, each followed by its cause. -/
def failureLine (f : Failure) : Line := [⟨.bad, "error"⟩, ": " ++ ": ".intercalate f.chain]

/-- The event is logged: a verbose log has every event, any other leaves the details out. -/
def isLogged (verbose : Bool) (e : Event) : Bool := verbose || e.level != .debug

def Ending.ofReport (color verbose : Bool) (r : Report) : Ending where
  files := r.files
  code :=
    match r.outcome with
    | .ok code => code
    | .error _ => failureCode
  stdout := render color r.lines
  stderr :=
    match r.outcome with
    | .ok _ => ""
    | .error f => render color [failureLine f]
  log := r.events.filter (isLogged verbose)

/-- Runs the program on the words of a command line. -/
def run [YamlReader] (t : FileTree) (color : Bool) (words : List String) : Ending :=
  match readArguments words with
  | .request r verbose => .ofReport color verbose (r.perform t)
  | .help command => { files := t, code := 0, stdout := helpText command }
  | .version command => { files := t, code := 0, stdout := versionText command }
  | .misuse =>
    { files := t, code := misuseCode
      stderr := "error: bad arguments\n\nFor more information, try '--help'.\n" }

end Bindery.Console
