import Bindery.Distinct
import Bindery.GenerationError
import Bindery.Json.Record
import Bindery.Target

/-!
# Reading targets

Targets are given by name or alias, several of them in a list that stands for all
targets when it is empty. In JSON only names are read.
-/

namespace Bindery.Target

open Json (Draft Members Error)

def parse (name : String) : Except GenerationError Target :=
  match ofName? name with
  | some t => .ok t
  | none => .error (.invalidTarget name)

/-- The targets of names and aliases, each at its first place; no names at all ask for every
target. -/
def parseAll : List String → Except GenerationError (List Target)
  | [] => .ok all
  | names => (names.mapM parse).map distinct

/-- The target of a name as JSON has it, where aliases are unknown. -/
def ofVariant (name : String) : Except Error Target :=
  match all.find? (·.name == name) with
  | some t => .ok t
  | none => .error (.data (.unknownVariant name (all.map Target.name)))

/-- What follows the one member of an object that names a target. -/
def closing : Members → Except Error Unit
  | .close => .ok ()
  | .broken b => .error (.broken b)
  | _ => .error (.broken .malformed)

/-- An object that names a target: its one member has that name and no value. -/
def ofMembers : Members → Except Error Target
  | .close => .error (.broken .malformed)
  | .broken b => .error (.broken b)
  | .stray none => .error (.broken .truncated)
  | .stray (some d) => .error (d.wrongKind "variant identifier")
  | .member (.error flaw) _ _ => .error (.broken flaw.kept)
  | .member (.ok name) .null rest => do
    let t ← ofVariant name
    closing rest
    return t
  | .member (.ok name) v _ => do
    let _ ← ofVariant name
    throw (v.wrongKind "unit")

/-- A target: its name, or an object that names it. -/
def decode : Draft → Except Error Target
  | .string name => ofVariant name
  | .flawed flaw => .error (.broken flaw.kept)
  | .object members => ofMembers members
  | _ => .error (.broken .malformed)

/-- Reads a target. What starts neither a string nor an object is wrong from the start, even where
the text ends too early. -/
def ofJson (text : String) : Except Error Target :=
  match Json.skipSpace text.toList with
  | [] => .error (.broken .truncated)
  | c :: _ =>
    if c = '"' ∨ c = '\x7b' then Json.decodeText decode text
    else .error (.broken .malformed)

@[simp] theorem parseAll_nil : parseAll [] = .ok all := rfl

@[simp] theorem parse_name (t : Target) : parse t.name = .ok t := by simp [parse]

end Bindery.Target
