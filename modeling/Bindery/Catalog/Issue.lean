import Bindery.Catalog.Default
import Bindery.Catalog.Descriptor
import Bindery.Catalog.Identifier

/-!
# Issues of a descriptor

What a descriptor has to satisfy before code is written for it: names that are
identifiers and do not repeat within a list, parameters of a supported type, and
defaults of that type. `Descriptor.issues` lists every fault in a fixed order: the
name, emptiness, the names of each list, then types and defaults of parameters.
-/

namespace Bindery

/-- A list of a descriptor. -/
inductive Section where
  | inputs
  | outputs
  | parameters
deriving Repr, DecidableEq

def Section.name : Section → String
  | .inputs => "inputs"
  | .outputs => "outputs"
  | .parameters => "parameters"

/-- A fault of a descriptor. -/
inductive Issue where
  | badAlgorithmName (name : String)
  | empty (algorithm : String)
  | badName (name : String) (list : Section) (index : Nat)
  | repeatedName (name : String) (list : Section) (index : Nat)
  | unsupportedType (parameter : String) (tag : Tag) (index : Nat)
  | badDefault (literal parameter : String) (tag : Tag) (index : Nat)
deriving Repr, DecidableEq

namespace Issue

def code : Issue → String
  | badAlgorithmName _ => "D001"
  | badName .. => "D001"
  | repeatedName _ .inputs _ => "D002"
  | repeatedName _ .outputs _ => "D003"
  | repeatedName _ .parameters _ => "D004"
  | badDefault .. => "D005"
  | unsupportedType .. => "D006"
  | empty _ => "D007"

def message : Issue → String
  | badAlgorithmName name => "algorithm name '" ++ name ++ "' is not a valid identifier"
  | empty algorithm => "algorithm '" ++ algorithm ++ "' has no inputs, outputs, or parameters"
  | badName name _ _ => "'" ++ name ++ "' is not a valid identifier"
  | repeatedName name _ _ => "'" ++ name ++ "' is declared more than once"
  | unsupportedType parameter tag _ =>
    "parameter '" ++ parameter ++ "' has unsupported type '" ++ tag.name ++ "'"
  | badDefault literal parameter tag _ =>
    "default '" ++ literal ++ "' of parameter '" ++ parameter ++ "' is not a valid " ++ tag.name

def memberPath (list : Section) (index : Nat) (member : String) : String :=
  list.name ++ "[" ++ toString index ++ "]." ++ member

/-- Where the fault is, unless it is the whole descriptor. -/
def path? : Issue → Option String
  | badAlgorithmName _ => some "name"
  | empty _ => none
  | badName _ list index => some (memberPath list index "name")
  | repeatedName _ list index => some (memberPath list index "name")
  | unsupportedType _ _ index => some (memberPath .parameters index "type")
  | badDefault _ _ _ index => some (memberPath .parameters index "default")

def display (issue : Issue) : String :=
  issue.code ++ ": " ++ issue.message ++
    match issue.path? with
    | some path => " (at " ++ path ++ ")"
    | none => ""

end Issue

/-- The faults of the names of a list from `index` on, `seen` being the identifiers before. -/
def nameIssues (list : Section) (seen : List String) (index : Nat) : List String → List Issue
  | [] => []
  | name :: rest =>
    if !isIdentifier name then
      .badName name list index :: nameIssues list seen (index + 1) rest
    else if seen.contains name then
      .repeatedName name list index :: nameIssues list seen (index + 1) rest
    else nameIssues list (name :: seen) (index + 1) rest

/-- The fault of a parameter's type, or else of its default. -/
def Parameter.issue? (p : Parameter) (index : Nat) : Option Issue :=
  if !p.tag.isParameterType then some (.unsupportedType p.name p.tag index)
  else if !p.tag.accepts p.default then some (.badDefault p.default p.name p.tag index)
  else none

/-- The faults of types and defaults of parameters from `index` on. -/
def parameterIssues (index : Nat) : List Parameter → List Issue
  | [] => []
  | p :: rest => (p.issue? index).toList ++ parameterIssues (index + 1) rest

def Descriptor.issues (d : Descriptor) : List Issue :=
  (if isIdentifier d.name then [] else [.badAlgorithmName d.name]) ++
  (if d.isEmpty then [.empty d.name] else []) ++
  nameIssues .inputs [] 0 (d.inputs.map (·.name)) ++
  nameIssues .outputs [] 0 (d.outputs.map (·.name)) ++
  nameIssues .parameters [] 0 (d.parameters.map (·.name)) ++
  parameterIssues 0 d.parameters

def Descriptor.IsValid (d : Descriptor) : Prop := d.issues = []

instance (d : Descriptor) : Decidable d.IsValid := inferInstanceAs (Decidable (_ = _))

end Bindery
