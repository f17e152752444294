import Bindery.Console.Report
import Bindery.Generator
import Bindery.Json.Writer

/-!
# Surveys

Which types the selected algorithms use, and which parameters have a given type.
Both are printed for people to read, or as JSON.
-/

namespace Bindery.Console

/-- The one line that holds a JSON value, whose text has breaks of its own. -/
def jsonLines (v : Json.Value) : List Line := [[v.pretty]]

/-- What is remarked about a tag of parameters. -/
def parameterNote? (tag : Tag) : Option String :=
  if tag.isParameterType then none else some "(unsupported as parameter)"

/-- What is remarked about a tag of inputs and outputs. -/
def pinNote? (tag : Tag) : Option String :=
  if tag.isComplete then none else some "(no native mapping)"

def tagLine (note? : Tag → Option String) (tag : Tag) : Line :=
  match note? tag with
  | some note => ["  " ++ tag.name ++ " ", ⟨.warning, note⟩]
  | none => ["  " ++ tag.name]

def tagLines (heading : String) (note? : Tag → Option String) (tags : List Tag) : List Line :=
  [⟨.heading, heading⟩] ::
    if tags.isEmpty then [["  ", ⟨.faint, "(none)"⟩]] else tags.map (tagLine note?)

def summaryLines (s : TypeSummary) : List Line :=
  tagLines "Parameter types:" parameterNote? s.parameters ++
  tagLines "Input types:" pinNote? s.inputs ++
  tagLines "Output types:" pinNote? s.outputs

/-- The line of an algorithm that a search has found. -/
def matchLine (m : ParameterMatch) : Line :=
  ["  ", ⟨.good, m.algorithm⟩, " ", ⟨.faint, ", ".intercalate m.parameters⟩]

/-- The lines of what a search for a tag has found. -/
def matchLines (tag : Tag) (found : List ParameterMatch) : List Line :=
  [⟨.heading, "Parameters of type"⟩, " ", ⟨.strong, tag.name⟩,
    " (" ++ toString found.length ++ " algorithm(s))"] :: found.map matchLine

variable [YamlReader]

def loadGenerator (t : FileTree) (catalogPath configPath : String) :
    Except Failure (Generator × Selection) := do
  let (catalog, config) ← loadInputs t catalogPath configPath
  match Generator.checked catalog.descriptor config.settings with
  | .ok g => return (g, config.selection)
  | .error e => throw (.settings e)

/-- The types that the selected algorithms use. -/
def surveyTypes (t : FileTree) (catalogPath configPath : String) (json : Bool) : Report :=
  match loadGenerator t catalogPath configPath with
  | .error f => .failed t f
  | .ok (g, selection) =>
    match g.typeSummary selection with
    | .error e => .failed t (.summary e)
    | .ok s => .ended t (if json then jsonLines s.json else summaryLines s) 0

/-- The selected algorithms with a parameter of the type of a name. -/
def surveyParameters (t : FileTree) (catalogPath configPath type : String) (json : Bool) :
    Report :=
  let tag := Tag.ofName type
  match loadGenerator t catalogPath configPath with
  | .error f => .failed t f
  | .ok (g, selection) =>
    match g.findParameters selection tag with
    | .error e => .failed t (.search e)
    | .ok found =>
      .ended t
        (if json then jsonLines (.array (found.map ParameterMatch.json))
          else matchLines tag found) 0

end Bindery.Console
