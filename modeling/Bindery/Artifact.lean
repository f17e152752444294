import Bindery.Target

/-!
# Artifacts

The code of one algorithm for one target, line by line.
-/

namespace Bindery

/-- The code of one algorithm for one target. -/
structure Artifact where
  algorithm : String
  target : Target
  /-- The lines without their ends. -/
  lines : List String
deriving Repr, DecidableEq

namespace Artifact

def blank (algorithm : String) (target : Target) : Artifact := ⟨algorithm, target, []⟩

def isEmpty (a : Artifact) : Bool := a.lines.isEmpty

def text (a : Artifact) : String := "\n".intercalate a.lines

end Artifact

end Bindery
