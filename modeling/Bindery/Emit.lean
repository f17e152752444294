import Bindery.Native.Declaration
import Bindery.Native.Definition
import Bindery.Native.Registration
import Bindery.Wrapper.Class
import Bindery.Wrapper.ParameterType

/-!
# Writing the code of an algorithm

One function for all targets.
-/

namespace Bindery

/-- Writes the code of an algorithm for a target. -/
def emit (target : Target) (a : Algorithm) (s : Settings) : Except GenerationError Artifact :=
  match target with
  | .declaration => Native.declaration a
  | .definition => Native.definition a s
  | .binding => Native.registration a
  | .wrapper => Wrapper.wrapperClass a s
  | .parameterTypes => Wrapper.parameterType a

end Bindery
