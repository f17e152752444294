import Bindery.Artifact
import Bindery.Native.Signature

/-!
# Class registrations

A registration lists the types of the constructor's parameters and nothing of the
inputs. The inputs are looked at all the same: a class that cannot be declared is
not registered.
-/

namespace Bindery.Native

def constructorTypes (a : Algorithm) : Except GenerationError (List String) :=
  a.parameters.mapM fun p =>
    require a p.name .binding p.tag (if p.tag.isParameterType then p.tag.binding? else none)

/-- The lines that register the class of an algorithm. -/
def registrationLines (a : Algorithm) (types : List String) : List String := [
  "class_<" ++ a.name ++ ">(\"" ++ a.name ++ "\")",
  "\t.constructor<" ++ ", ".intercalate types ++ ">()",
  "\t.function(\"configure\", &" ++ a.name ++ "::configure)",
  "\t.function(\"compute\", &" ++ a.name ++ "::compute)",
  "\t.function(\"reset\", &" ++ a.name ++ "::reset)",
  "\t;"]

def registration (a : Algorithm) : Except GenerationError Artifact := do
  let _ ← inputs a
  let types ← constructorTypes a
  return ⟨a.name, .binding, registrationLines a types⟩

end Bindery.Native
