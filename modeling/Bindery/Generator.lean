import Bindery.Catalog.Selection
import Bindery.Emit
import Bindery.Event
import Bindery.Run
import Bindery.Summary

/-!
# Generators

A generator writes the code of selected algorithms. All of them are looked up and
made ready before any code is written, so that a bad descriptor leaves no part of a
run behind. Then each target takes one pass over the algorithms.
-/

namespace Bindery

/-- Where descriptors come from, and how code is written. -/
structure Generator where
  provider : Provider
  settings : Settings

namespace Generator

/-- A generator with settings that have no fault. -/
def checked (p : Provider) (s : Settings) : Except GenerationError Generator :=
  match s.fault? with
  | some fault => .error (.invalidSettings fault)
  | none => .ok ⟨p, s⟩

def usual (p : Provider) : Generator := ⟨p, {}⟩

variable (g : Generator)

def descriptors (s : Selection) : Except GenerationError (List Descriptor) :=
  s.resolve.mapM fun name =>
    match g.provider name with
    | .ok d => .ok d
    | .error e => .error (.catalog e)

/-- The selected algorithms, ready for generation. Exclusions without effect are told first. -/
def algorithms (s : Selection) : Logged (List Algorithm) := do
  Logged.log (s.unusedExclusions.map .unusedExclusion)
  Logged.ofExcept (s.resolve.mapM (Algorithm.fetch g.provider g.settings))

/-- Writes the code of algorithms for a target, one after the other. -/
def emitEach (t : Target) : List Algorithm → Logged (List Artifact)
  | [] => pure []
  | a :: rest => do
    Logged.log [.emitting t a.name]
    let artifact ← Logged.ofExcept (emit t a g.settings)
    let artifacts ← emitEach t rest
    return artifact :: artifacts

def pass (as : List Algorithm) (t : Target) : Logged (List Artifact) := do
  Logged.log [.generating t as.length]
  let artifacts ← g.emitEach t as
  Logged.log [.finished t (artifacts.filter (!·.isEmpty)).length]
  return artifacts

def passes (as : List Algorithm) : List Target → Logged (List Artifact)
  | [] => pure []
  | t :: rest => do
    let first ← g.pass as t
    let others ← passes as rest
    return first ++ others

/-- The code of the selected algorithms for one target. -/
def generate (s : Selection) (t : Target) : Logged (List Artifact) := do
  g.pass (← g.algorithms s) t

/-- The code of the selected algorithms for some targets, each of which takes one pass however
often it is named. -/
def run (s : Selection) (ts : List Target) : Logged Run := do
  let as ← g.algorithms s
  let artifacts ← g.passes as (distinct ts)
  return {
    artifacts := artifacts
    exports :=
      if Target.parameterTypes ∈ ts then some (Wrapper.exportBlock artifacts) else none }

/-- The code of the selected algorithms for all targets. -/
def runAll (s : Selection) : Logged Run := g.run s Target.all

/-- The type tags that the selected algorithms use. -/
def typeSummary (s : Selection) : Except GenerationError TypeSummary :=
  (g.descriptors s).map TypeSummary.collect

/-- The selected algorithms with a parameter of a tag. -/
def findParameters (s : Selection) (tag : Tag) : Except GenerationError (List ParameterMatch) :=
  (g.descriptors s).map (Bindery.findParameters tag)

end Generator

end Bindery
