import Bindery.Catalog.Tag

/-!
# Types on the generated surfaces

| tag | native | wrapper |
|-----|--------|---------|
| real | float | number |
| integer | int | number |
| string | std::string | string |
| bool | bool | boolean |
| vector of reals | reference to a vector | any[] |
| vector of vectors | reference to a vector of vectors | VectorVectorFloat |
| vector of strings | vector | any[] |
| complex vector, matrix | none | any[] |
| stereo samples, complex vectors | none | VectorVectorFloat |

Binding constructors list native types, so they map the same tags.
-/

namespace Bindery

/-- Where a type is rendered. -/
inductive Surface where
  /-- Class declarations and definitions. -/
  | native
  /-- Class registrations. -/
  | binding
  /-- Wrapper classes and parameter types. -/
  | wrapper
deriving Repr, DecidableEq

def Surface.name : Surface → String
  | .native => "native"
  | .binding => "binding"
  | .wrapper => "wrapper"

namespace Tag

def native? : Tag → Option String
  | vectorReal => some "std::vector<float>&"
  | vectorVectorReal => some "std::vector<std::vector<float> >&"
  | vectorString => some "std::vector<std::string>"
  | string => some "std::string"
  | integer => some "int"
  | real => some "float"
  | bool => some "bool"
  | _ => none

/-- The type of a tag in a binding constructor. -/
def binding? (t : Tag) : Option String := t.native?

def wrapper? : Tag → Option String
  | vectorReal | vectorComplex | matrixReal | vectorString => some "any[]"
  | vectorVectorReal | vectorVectorComplex | vectorStereoSample => some "VectorVectorFloat"
  | string => some "string"
  | integer | real => some "number"
  | bool => some "boolean"
  | other _ => none

def mapped? : Surface → Tag → Option String
  | .native, t => t.native?
  | .binding, t => t.binding?
  | .wrapper, t => t.wrapper?

/-- Inputs and outputs of this tag can stand in native code and in the wrapper. -/
def isComplete (t : Tag) : Bool := t.native?.isSome && t.wrapper?.isSome

theorem native?_isSome_of_isParameterType {t : Tag} (h : t.isParameterType = true) :
    t.native?.isSome = true := by
  cases t <;> simp_all [isParameterType, native?]

theorem wrapper?_isSome_of_native? {t : Tag} (h : t.native?.isSome = true) :
    t.wrapper?.isSome = true := by
  cases t <;> simp_all [native?, wrapper?]

end Tag

/-- A native type without its reference mark, as a local variable is declared. -/
def valueType (native : String) : String :=
  String.ofList (native.toList.filter (· != '&'))

end Bindery
