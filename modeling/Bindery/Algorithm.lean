import Bindery.Catalog.Basic
import Bindery.GenerationError

/-!
# Algorithms ready for generation

A descriptor with the identifiers that native code uses for it. Inputs and
outputs are told apart by what stands before their names, so that an input and an
output of one name do not meet as variables.
-/

namespace Bindery

/-- An input or output with its identifier in native code. -/
structure Slot extends Pin where
  ident : String
deriving Repr, DecidableEq

/-- A descriptor with its identifiers. -/
structure Algorithm where
  descriptor : Descriptor
  handle : String
  inputs : List Slot
  outputs : List Slot
deriving Repr, DecidableEq

namespace Algorithm

def name (a : Algorithm) : String := a.descriptor.name

def parameters (a : Algorithm) : List Parameter := a.descriptor.parameters

def hasParameters (a : Algorithm) : Bool := a.descriptor.hasParameters

/-- A pin whose identifier is its name after `before`. -/
def slot (before : String) (p : Pin) : Slot := { p with ident := before ++ p.name }

/-- The algorithm of a descriptor that says anything at all. -/
def ofDescriptor (s : Settings) (d : Descriptor) : Except GenerationError Algorithm :=
  if d.isEmpty then .error (.malformed d.name)
  else .ok {
    descriptor := d
    handle := s.handle d.name
    inputs := d.inputs.map (slot s.inputPrefix)
    outputs := d.outputs.map (slot s.outputPrefix) }

def fetch (p : Provider) (s : Settings) (name : String) : Except GenerationError Algorithm :=
  match p name with
  | .ok d => ofDescriptor s d
  | .error e => .error (.catalog e)

end Algorithm

end Bindery
