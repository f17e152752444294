import Bindery.Artifact
import Bindery.Native.Signature

/-!
# Native class declarations

The members of a class always come in one order: constructor, destructor,
`configure`, `compute`, `reset`, and the private handle.
-/

namespace Bindery.Native

/-- The lines that declare the class of an algorithm. -/
def declarationLines (a : Algorithm) (s : Signature) : List String := [
  "class " ++ a.name ++ " \x7b",
  "\tpublic:",
  "\t\t" ++ a.name ++ "(" ++ argumentList s.parameters ++ ");",
  "\t\t~" ++ a.name ++ "();",
  "\t\tvoid configure(" ++ argumentList s.parameters ++ ");",
  "\t\t" ++ resultType ++ " compute(" ++ argumentList s.inputs ++ ");",
  "\t\tvoid reset();",
  "\tprivate:",
  "\t\tAlgorithm* " ++ a.handle ++ ";",
  "\x7d;"]

def declaration (a : Algorithm) : Except GenerationError Artifact :=
  (Signature.of a).map fun s => ⟨a.name, .declaration, declarationLines a s⟩

end Bindery.Native
