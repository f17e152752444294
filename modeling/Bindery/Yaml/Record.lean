import Bindery.Record
import Bindery.Yaml.Node

/-!
# Decoding YAML nodes

Strings, lists of strings, and records. Any scalar is a string as it is written.
An empty place stands for the empty list, and for the record of defaults.
-/

namespace Bindery.Yaml

namespace Node

def isEmpty : Node → Bool
  | .scalar text plain => plain && text.isEmpty
  | _ => false

def text : Node → Except Error String
  | .scalar text _ => .ok text
  | _ => .error .wrongKind

def texts (n : Node) : Except Error (List String) :=
  match n with
  | .sequence items => items.mapM text
  | _ => if n.isEmpty then .ok [] else .error .wrongKind

end Node

variable {α : Type}

/-- Decodes the members of a mapping into a record; `seen` are the names read before. -/
def fromPairs (members : List (Member Node Error α)) (seen : List String) (record : α) :
    List (Node × Node) → Except Error α
  | [] =>
    match firstMissing? members seen with
    | some m => .error (.missingMember m.name)
    | none => .ok record
  | (key, v) :: rest => do
    let name ← key.text
    match memberNamed? members name with
    | none => throw (.unknownMember name)
    | some m =>
      if seen.contains name then throw (.duplicateMember name)
      else
        let record ← m.put v record
        fromPairs members (name :: seen) record rest

/-- Decodes a record, which starts from `blank`. -/
def decodeRecord (members : List (Member Node Error α)) (blank : α) (n : Node) :
    Except Error α :=
  match n with
  | .mapping pairs => fromPairs members [] blank pairs
  | _ => if n.isEmpty then fromPairs members [] blank [] else .error .wrongKind

end Bindery.Yaml
