import Bindery.Catalog.Descriptor
import Bindery.Distinct

/-!
# Type summaries

Which type tags a list of descriptors uses, each at its first use, and which
parameters have a given tag.
-/

namespace Bindery

/-- The tags in use. -/
structure TypeSummary where
  parameters : List Tag
  inputs : List Tag
  outputs : List Tag
deriving Repr, DecidableEq

namespace TypeSummary

def collect (ds : List Descriptor) : TypeSummary where
  parameters := distinct (ds.flatMap fun d => d.parameters.map (·.tag))
  inputs := distinct (ds.flatMap fun d => d.inputs.map (·.tag))
  outputs := distinct (ds.flatMap fun d => d.outputs.map (·.tag))

/-- The tags of parameters that no parameter may have. -/
def unsupported (s : TypeSummary) : List Tag := s.parameters.filter (!·.isParameterType)

def tagsJson (tags : List Tag) : Json.Value := .ofStrings (tags.map Tag.name)

def json (s : TypeSummary) : Json.Value :=
  .object [("parameter_types", tagsJson s.parameters), ("input_types", tagsJson s.inputs),
    ("output_types", tagsJson s.outputs)]

end TypeSummary

/-- An algorithm with the parameters that a search has found. -/
structure ParameterMatch where
  algorithm : String
  parameters : List String
deriving Repr, DecidableEq

namespace ParameterMatch

/-- The names of a descriptor's parameters of a tag. -/
def namesOf (tag : Tag) (d : Descriptor) : List String :=
  (d.parameters.filter (·.tag = tag)).map (·.name)

/-- What a search for a tag finds in a descriptor. -/
def of? (tag : Tag) (d : Descriptor) : Option ParameterMatch :=
  if (namesOf tag d).isEmpty then none else some ⟨d.name, namesOf tag d⟩

def json (m : ParameterMatch) : Json.Value :=
  .object [("algorithm", .string m.algorithm), ("parameters", .ofStrings m.parameters)]

end ParameterMatch

def findParameters (tag : Tag) (ds : List Descriptor) : List ParameterMatch :=
  ds.filterMap (ParameterMatch.of? tag)

end Bindery
