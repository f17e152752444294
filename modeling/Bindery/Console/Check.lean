import Bindery.Console.Report
import Bindery.Generator

/-!
# Checking a catalog

Looks for every fault of the descriptors of a catalog, and then for every target
that the code of a selected algorithm cannot be written for. Nothing ends the
search early, so that all problems are told at once.
-/

namespace Bindery.Console

/-- The faults of the descriptors of a catalog. -/
def descriptorProblems (c : Catalog) : List CatalogError :=
  c.descriptors.flatMap fun d => d.issues.map (.invalid d.name)

/-- What keeps the code of an algorithm from being written, for all targets. -/
def generationProblems (c : Catalog) (s : Settings) (name : String) : List GenerationError :=
  match Algorithm.fetch c.descriptor s name with
  | .error e => [e]
  | .ok a =>
    Target.all.filterMap fun t =>
      match emit t a s with
      | .ok _ => none
      | .error e => some e

/-- The problems of a catalog: of its descriptors, and of the selected algorithms that have any. -/
structure Problems where
  descriptors : List CatalogError
  algorithms : List (String × List GenerationError)

namespace Problems

/-- Every problem of a catalog under a selection and settings. -/
def find (c : Catalog) (selection : Selection) (s : Settings) : Problems where
  descriptors := descriptorProblems c
  algorithms :=
    (selection.resolve.map fun name => (name, generationProblems c s name)).filter (!·.2.isEmpty)

def count (p : Problems) : Nat :=
  p.descriptors.length + (p.algorithms.flatMap (·.2)).length

/-- The lines of the problems of one algorithm. -/
def algorithmLines (name : String) (problems : List GenerationError) : List Line :=
  [⟨.warning, "Algorithm:"⟩, " " ++ name] :: problems.map codedLine

def lines (p : Problems) : List Line :=
  p.descriptors.map codedLine ++ p.algorithms.flatMap fun a => algorithmLines a.1 a.2

end Problems

def verdictLines (algorithms problems : Nat) : List Line :=
  if problems = 0 then
    [[], [⟨.success, "VALID"⟩, " " ++ toString algorithms ++ " algorithm(s) checked"]]
  else [[], [⟨.failure, "INVALID"⟩, " " ++ toString problems ++ " problem(s)"]]

/-- Checks a catalog under a selection and settings. -/
def checkWith (t : FileTree) (catalog : Catalog) (selection : Selection) (s : Settings) : Report :=
  match s.fault? with
  | some fault => .failed t (.settings (.invalidSettings fault))
  | none =>
    let problems := Problems.find catalog selection s
    .ended t (problems.lines ++ verdictLines selection.resolve.length problems.count)
      (if problems.count = 0 then 0 else 1)

variable [YamlReader]

/-- Checks a catalog under a configuration; without one, all of its algorithms under the usual
settings. -/
def check (t : FileTree) (catalogPath : String) (configPath : Option String) : Report :=
  Report.after [labelled "Validating:" catalogPath] <|
    match loadCatalog t catalogPath with
    | .error f => .failed t f
    | .ok catalog =>
      match configPath with
      | none => checkWith t catalog (.all catalog.names) {}
      | some path =>
        match loadConfig t path with
        | .error f => .failed t f
        | .ok config => checkWith t catalog config.selection config.settings

end Bindery.Console
