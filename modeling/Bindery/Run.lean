import Bindery.Artifact
import Bindery.Digest.Blake3

/-!
# Runs

What a generation has produced: artifacts in the order of their making, and the
block that exports parameter types if there is one. Rendering joins the artifacts
of one target into the body of its file.
-/

namespace Bindery

/-- What a generation has produced. -/
structure Run where
  artifacts : List Artifact := []
  exports : Option (List String) := none
deriving Repr, DecidableEq

namespace Run

def empty : Run := {}

def push (r : Run) (a : Artifact) : Run := { r with artifacts := r.artifacts ++ [a] }

def forTarget (r : Run) (t : Target) : List Artifact := r.artifacts.filter (·.target = t)

/-- The first artifact of an algorithm for a target. -/
def get? (r : Run) (algorithm : String) (t : Target) : Option Artifact :=
  r.artifacts.find? fun a => a.target = t && a.algorithm == algorithm

/-- The texts that make up the body of a target's file: artifacts that are not empty, and the
export block after parameter types. -/
def blocks (r : Run) (t : Target) : List String :=
  ((r.forTarget t).filter (!·.isEmpty)).map Artifact.text ++
  if t = .parameterTypes then (r.exports.map fun e => "\n".intercalate e).toList else []

/-- The body of a target's file, with an empty line between blocks. -/
def render (r : Run) (t : Target) : String := "\n\n".intercalate (r.blocks t) ++ "\n"

def digest (r : Run) (t : Target) : String := Digest.blake3 (r.render t)

end Run

end Bindery
