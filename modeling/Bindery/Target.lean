/-!
# Targets

The kinds of code that are generated, each into a file of its own.
-/

namespace Bindery

/-- A kind of generated code. -/
inductive Target where
  /-- Native class declarations. -/
  | declaration
  /-- Native class definitions. -/
  | definition
  /-- Class registrations. -/
  | binding
  /-- Wrapper classes. -/
  | wrapper
  /-- Parameter types with their export block. -/
  | parameterTypes
deriving Repr, DecidableEq

namespace Target

/-- The targets in the order of their generation. -/
def all : List Target := [declaration, definition, binding, wrapper, parameterTypes]

def name : Target → String
  | declaration => "declaration"
  | definition => "definition"
  | binding => "binding"
  | wrapper => "wrapper"
  | parameterTypes => "param-types"

def aliases : Target → List String
  | declaration => ["header"]
  | definition => ["algorithm"]
  | parameterTypes => ["param_types"]
  | _ => []

def ofName? (name : String) : Option Target :=
  all.find? fun t => t.name == name || t.aliases.contains name

def fileName : Target → String
  | declaration => "algorithms.h"
  | definition => "algorithms.cpp"
  | binding => "bindings.cpp"
  | wrapper => "wrapper.ts"
  | parameterTypes => "param_types.ts"

@[simp] theorem mem_all (t : Target) : t ∈ all := by cases t <;> decide

@[simp] theorem ofName?_name (t : Target) : ofName? t.name = some t := by cases t <;> decide

theorem fileName_injective {t u : Target} (h : t.fileName = u.fileName) : t = u := by
  cases t <;> cases u <;> first | rfl | simp [fileName] at h

end Target

end Bindery
