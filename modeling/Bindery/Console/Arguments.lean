import Bindery.Console.Request

/-!
# Command lines

Words are read from left to right, and the first that asks for help or the version,
or that cannot stand where it does, decides. A switch has a long name and perhaps a
letter; letters can share a word, and a value can follow in the same word or in the
next one, which then must not look like a switch.
-/

namespace Bindery.Console

/-- What a switch does. -/
inductive Effect where
  | help
  | version
  /-- It is on. -/
  | flag
  /-- It takes one value. -/
  | one
  /-- It takes a value each time. -/
  | many
deriving Repr, DecidableEq

/-- A switch of a command. -/
structure Switch where
  long : String
  letter : Option Char
  effect : Effect
  /-- What stands for its value in help, if it takes one. -/
  placeholder : String
  /-- What help says about it. -/
  about : String
deriving Repr, DecidableEq

def Switch.takesValue (s : Switch) : Bool := s.effect == .one || s.effect == .many

/-- Why a command line asks for no command. -/
inductive Halt where
  | help
  | version
  /-- A word cannot stand where it does, or one is missing. -/
  | misuse
deriving Repr, DecidableEq

/-- The switches that have been met, by long name, with the values that they take. -/
structure Given where
  flags : List String := []
  values : List (String × String) := []
deriving Repr, DecidableEq

namespace Given

def flag (g : Given) (s : Switch) : Except Halt Given :=
  match s.effect with
  | .help => .error .help
  | .version => .error .version
  | .flag =>
    if g.flags.contains s.long then .error .misuse
    else .ok { g with flags := g.flags ++ [s.long] }
  | _ => .error .misuse

def all (g : Given) (long : String) : List String :=
  (g.values.filter (·.1 == long)).map (·.2)

def get? (g : Given) (long : String) : Option String := (g.all long).head?

def value (g : Given) (s : Switch) (v : String) : Except Halt Given :=
  if s.effect = .one ∧ (g.get? s.long).isSome then .error .misuse
  else .ok { g with values := g.values ++ [(s.long, v)] }

def isOn (g : Given) (long : String) : Bool := g.flags.contains long

end Given

/-- The kinds of words. -/
inductive Word where
  /-- Nothing after it is a switch. -/
  | stop
  /-- A long switch, perhaps with a value. -/
  | long (name : String) (value : Option String)
  /-- Letters of switches. -/
  | letters (cs : List Char)
  | plain (text : String)
deriving Repr, DecidableEq

def Word.of (w : String) : Word :=
  match w.toList with
  | ['-', '-'] => .stop
  | '-' :: '-' :: cs =>
    let value :=
      match cs.dropWhile (· != '=') with
      | [] => none
      | _ :: v => some (String.ofList v)
    .long (String.ofList (cs.takeWhile (· != '='))) value
  | '-' :: c :: cs => .letters (c :: cs)
  | _ => .plain w

/-- Reads the letters of a word. Also gives back the switch whose value has to follow as the next
word, if there is one. -/
def readLetters (switches : List Switch) (g : Given) : List Char →
    Except Halt (Given × Option Switch)
  | [] => .ok (g, none)
  | c :: cs =>
    match switches.find? (·.letter == some c) with
    | none => .error .misuse
    | some s =>
      if s.takesValue then
        match cs with
        | [] => .ok (g, some s)
        | '=' :: v => do return (← g.value s (String.ofList v), none)
        | v => do return (← g.value s (String.ofList v), none)
      else
        match g.flag s with
        | .ok g => readLetters switches g cs
        | .error h => .error h

/-- Reads one word that is not plain. Also gives back the switch whose value has to follow. -/
def readWord (switches : List Switch) (g : Given) : Word → Except Halt (Given × Option Switch)
  | .letters cs => readLetters switches g cs
  | .long name value =>
    match switches.find? (·.long == name), value with
    | none, _ => .error .misuse
    | some s, none => if s.takesValue then .ok (g, some s) else do return (← g.flag s, none)
    | some s, some v => do
      if s.takesValue then return (← g.value s v, none) else throw .misuse
  | _ => .error .misuse

/-- Reads switches and gives back the words from the first plain one on; `awaiting` is the switch
whose value is due. -/
def readSwitches (switches : List Switch) (g : Given) (awaiting : Option Switch) :
    List String → Except Halt (Given × List String)
  | [] => if awaiting.isSome then .error .misuse else .ok (g, [])
  | w :: rest =>
    match Word.of w, awaiting with
    | .plain v, some s =>
      match g.value s v with
      | .ok g => readSwitches switches g none rest
      | .error h => .error h
    | .plain _, none => .ok (g, w :: rest)
    | _, some _ => .error .misuse
    | .stop, none => if rest.isEmpty then .ok (g, []) else .error .misuse
    | word, none =>
      match readWord switches g word with
      | .ok (g, awaiting) => readSwitches switches g awaiting rest
      | .error h => .error h

def verbose : Switch := ⟨"verbose", some 'v', .flag, "", "Enable debug logging"⟩

def commonSwitches : List Switch := [
  verbose,
  ⟨"help", some 'h', .help, "", "Print help"⟩,
  ⟨"version", some 'V', .version, "", "Print version"⟩]

/-- A command of the program. -/
structure Command where
  name : String
  about : String
  switches : List Switch
  /-- The request of the switches, unless one is missing. -/
  request? : Given → Option Request

def catalogSwitch : Switch :=
  ⟨"catalog", some 'c', .one, "CATALOG", "Path to the descriptor catalog (JSON)"⟩

def configSwitch : Switch :=
  ⟨"config", none, .one, "CONFIG", "Path to the run config (JSON or YAML)"⟩

def jsonSwitch : Switch := ⟨"json", none, .flag, "", "Output machine-readable JSON"⟩

def commands : List Command := [
  { name := "generate"
    about := "Generate native classes, bindings and TypeScript wrappers"
    switches := [catalogSwitch, configSwitch,
      ⟨"out", some 'o', .one, "OUT", "Output directory"⟩,
      ⟨"target", some 't', .many, "TARGETS",
        "Targets to generate (" ++ ", ".intercalate (Target.all.map Target.name) ++
          "); default all"⟩]
    request? := fun g => do
      return .generate (← g.get? "catalog") (← g.get? "config") (← g.get? "out") (g.all "target") },
  { name := "types"
    about := "Print the distinct type tags used by the selected algorithms"
    switches := [catalogSwitch, configSwitch, jsonSwitch]
    request? := fun g => do
      return .types (← g.get? "catalog") (← g.get? "config") (g.isOn "json") },
  { name := "find-params"
    about := "List selected algorithms with parameters of a given type"
    switches := [catalogSwitch, configSwitch,
      ⟨"type", some 't', .one, "TYPE_TAG", "Type tag to search for (e.g. vector_real)"⟩, jsonSwitch]
    request? := fun g => do
      return .findParameters (← g.get? "catalog") (← g.get? "config") (← g.get? "type")
        (g.isOn "json") },
  { name := "validate"
    about := "Validate catalog descriptors and dry-run generation"
    switches := [catalogSwitch, configSwitch]
    request? := fun g => do return .validate (← g.get? "catalog") (g.get? "config") }]

def commandNamed? (name : String) : Option Command := commands.find? (·.name == name)

/-- What a command line asks for. -/
inductive Invocation where
  | request (r : Request) (verbose : Bool)
  /-- Help on a command, or on the program. -/
  | help (command : Option String)
  /-- The version of a command, or of the program. -/
  | version (command : Option String)
  | misuse
deriving Repr, DecidableEq

/-- What is asked for where a command line asks for no command. -/
def Invocation.ofHalt (command : Option String) : Halt → Invocation
  | .help => .help command
  | .version => .version command
  | .misuse => .misuse

def readCommand (c : Command) (verbosity : Bool) (words : List String) : Invocation :=
  match readSwitches (c.switches ++ commonSwitches) {} none words with
  | .error h => .ofHalt (some c.name) h
  | .ok (g, []) =>
    match c.request? g with
    | some r => .request r (verbosity || g.isOn verbose.long)
    | none => .misuse
  | .ok (_, _ :: _) => .misuse

/-- Reads the words after the name of the command that helps: at most the name of one command,
which may be its own. -/
def readHelp : List String → Invocation
  | [] => .help none
  | [name] =>
    if name = "help" ∨ (commandNamed? name).isSome then .help (some name) else .misuse
  | _ => .misuse

def readArguments (words : List String) : Invocation :=
  match readSwitches commonSwitches {} none words with
  | .error h => .ofHalt none h
  | .ok (_, []) => .misuse
  | .ok (g, name :: rest) =>
    if name = "help" then readHelp rest
    else
      match commandNamed? name with
      | some c => readCommand c (g.isOn verbose.long) rest
      | none => .misuse

end Bindery.Console
