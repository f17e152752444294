import Bindery.Console.Report
import Bindery.Generator
import Bindery.Target.Parse

/-!
# Generating files

Writes one file for each target into a directory. Nothing is written before the
whole run has succeeded.
-/

namespace Bindery.Console

def shortDigest (digest : String) : String := String.ofList (digest.toList.take 16)

/-- The line about a file that has been written. -/
def writtenLine (run : Run) (target : Target) : Line :=
  ["  ", ⟨.good, "+"⟩, " " ++ target.fileName ++ " ", ⟨.faint, shortDigest (run.digest target)⟩]

/-- Writes the file of each target into a directory, one after the other; those before a failure
stay written. -/
def writeTargets (run : Run) (directory : String) (t : FileTree) : List Target → Report
  | [] => .ended t [] 0
  | target :: rest =>
    match t.writeText (FileTree.join directory target.fileName) (run.render target) with
    | .ok t => (writeTargets run directory t rest).after [writtenLine run target]
    | .error e => .failed t (.write (FileTree.join directory target.fileName) e)

/-- Writes the files of a run into a directory, which is made if need be. -/
def writeRun (run : Run) (targets : List Target) (directory : String) (t : FileTree) : Report :=
  match t.makeDirectories directory with
  | .ok t => writeTargets run directory t targets
  | .error e => .failed t (.directory directory e)

/-- The lines about a generation that has failed. -/
def failureLines (e : GenerationError) : List Line :=
  [[], [⟨.failure, "GENERATION FAILED"⟩], codedLine e]

/-- The last lines about a generation that has succeeded. -/
def successLines (targets algorithms : Nat) : List Line :=
  [[], [⟨.success, "SUCCESS"⟩, " Generated " ++ toString targets ++ " file(s) for " ++
    toString algorithms ++ " algorithm(s)"]]

def selectionLine (algorithms targets : Nat) : Line :=
  [⟨.faint, "Selection:"⟩, " " ++ toString algorithms ++ " algorithm(s), " ++ toString targets ++
    " target(s)"]

/-- More lines after a report that ends without a failure. -/
def Report.before (r : Report) (lines : List Line) : Report :=
  match r.outcome with
  | .ok _ => { r with lines := r.lines ++ lines }
  | .error _ => r

/-- Generates the code of a configuration for some targets and writes it into a directory. -/
def generateFrom (t : FileTree) (catalog : Catalog) (config : RunConfig) (targets : List Target)
    (directory : String) : Report :=
  match Generator.checked catalog.descriptor config.settings with
  | .error e => .failed t (.settings e)
  | .ok g =>
    let story := g.run config.selection targets
    match story.outcome with
    | .error e => { Report.ended t (failureLines e) 2 with events := story.events }
    | .ok run =>
      let count := config.selection.resolve.length
      { (writeRun run targets directory t).before (successLines targets.length count) with
        events := story.events }

variable [YamlReader]

/-- Generates the code of a configuration for the targets of some names, or for all. -/
def generate (t : FileTree) (catalogPath configPath directory : String) (names : List String) :
    Report :=
  match Target.parseAll names with
  | .error e => .failed t (.target e)
  | .ok targets =>
    Report.after [labelled "Catalog:" catalogPath, labelled "Output dir:" directory] <|
      match loadInputs t catalogPath configPath with
      | .error f => .failed t f
      | .ok (catalog, config) =>
        Report.after [selectionLine config.selection.resolve.length targets.length] <|
          generateFrom t catalog config targets directory

end Bindery.Console
