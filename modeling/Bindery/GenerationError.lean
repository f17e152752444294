import Bindery.Catalog.Error
import Bindery.Settings
import Bindery.Surface

/-!
# Why generation fails

Failures of turning descriptors into code, those of the catalog among them.
-/

namespace Bindery

/-- Why no code is generated. -/
inductive GenerationError where
  /-- A type has no form on a surface. -/
  | unsupportedType (algorithm field : String) (surface : Surface) (tag : Tag)
  /-- A descriptor without inputs, outputs and parameters. -/
  | malformed (algorithm : String)
  /-- Nothing to return from a computation. -/
  | missingOutput (algorithm : String)
  | invalidTarget (name : String)
  | invalidSettings (fault : SettingsFault)
  | catalog (cause : CatalogError)

namespace GenerationError

def code : GenerationError → String
  | unsupportedType .. => "CODEGEN_001"
  | malformed _ => "CODEGEN_002"
  | missingOutput _ => "CODEGEN_003"
  | invalidTarget _ => "CODEGEN_004"
  | invalidSettings _ => "CODEGEN_005"
  | catalog cause => cause.code

def message : GenerationError → String
  | unsupportedType algorithm field surface tag =>
    "unsupported type '" ++ tag.name ++ "' for " ++ surface.name ++ " surface in '" ++ algorithm ++
      "' (field '" ++ field ++ "')"
  | malformed algorithm =>
    "no inputs, outputs or parameters found for the algorithm '" ++ algorithm ++ "'"
  | missingOutput algorithm => "no output variable found in the algorithm '" ++ algorithm ++ "'"
  | invalidTarget name =>
    "invalid target '" ++ name ++
      "': expected one of declaration, definition, binding, wrapper, param-types"
  | invalidSettings fault => "invalid codegen config: " ++ fault.message
  | catalog cause => cause.message

def algorithm? : GenerationError → Option String
  | unsupportedType algorithm .. => some algorithm
  | malformed algorithm => some algorithm
  | missingOutput algorithm => some algorithm
  | catalog (.unknown name) => some name
  | _ => none

instance : Coded GenerationError := ⟨code, message⟩

end GenerationError

end Bindery
