import Bindery.Artifact
import Bindery.Native.Signature
import Bindery.Wrapper.Literal

/-!
# Parameter types

A structural type for the parameters of each algorithm that has any, and one
block that exports all of them.
-/

namespace Bindery.Wrapper

open Native (require)

/-- A parameter with its type in the wrapper. -/
structure Field where
  parameter : Parameter
  type : String
deriving Repr, DecidableEq

/-- The parameters of an algorithm with their types. -/
def fields (a : Algorithm) : Except GenerationError (List Field) :=
  a.parameters.mapM fun p =>
    (require a p.name .wrapper p.tag p.tag.wrapper?).map fun type => ⟨p, type⟩

namespace Field

def comment (f : Field) : String :=
  " * @param \x7b" ++ f.type ++ "\x7d [" ++ f.parameter.name ++ "=" ++
    defaultLiteral f.parameter ++ "] " ++ f.parameter.description

def line (f : Field) : String := "  " ++ f.parameter.name ++ ": " ++ f.type ++ ","

end Field

/-- The lines of an algorithm's parameter type. -/
def typeLines (a : Algorithm) (fs : List Field) : List String :=
  ["/**", " * Parameter object type accepted by `" ++ a.name ++ "` algorithm", " *@type"] ++
  fs.map Field.comment ++
  ["*/", "type " ++ Settings.parameterType a.name ++ " = \x7b"] ++
  fs.map Field.line ++
  ["\x7d;"]

/-- Writes the parameter type of an algorithm; nothing where there are no parameters. -/
def parameterType (a : Algorithm) : Except GenerationError Artifact :=
  if a.hasParameters then
    (fields a).map fun fs => ⟨a.name, .parameterTypes, typeLines a fs⟩
  else .ok (.blank a.name .parameterTypes)

/-- The block that exports the parameter types among the artifacts. -/
def exportBlock (artifacts : List Artifact) : List String :=
  ["export \x7b"] ++
  (artifacts.filter fun a => a.target = .parameterTypes && !a.isEmpty).map
    (fun a => "  " ++ Settings.parameterType a.algorithm ++ ",") ++
  ["\x7d"]

end Bindery.Wrapper
