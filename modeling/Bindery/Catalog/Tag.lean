/-!
# Type tags

The tag that a catalog gives to an input, an output or a parameter. A tag that
the catalog's vocabulary does not have is kept as it is spelled: whether it can be
used is decided where code is written for it.
-/

namespace Bindery

/-- The type tag of an input, an output or a parameter. -/
inductive Tag where
  | real
  | integer
  | string
  | bool
  | vectorReal
  | vectorVectorReal
  | vectorString
  | vectorComplex
  | matrixReal
  | vectorStereoSample
  | vectorVectorComplex
  /-- A tag outside the vocabulary, by its spelling. -/
  | other (name : String)
deriving Repr, DecidableEq

namespace Tag

def name : Tag → String
  | real => "real"
  | integer => "integer"
  | string => "string"
  | bool => "bool"
  | vectorReal => "vector_real"
  | vectorVectorReal => "vector_vector_real"
  | vectorString => "vector_string"
  | vectorComplex => "vector_complex"
  | matrixReal => "matrix_real"
  | vectorStereoSample => "vector_stereosample"
  | vectorVectorComplex => "vector_vector_complex"
  | other name => name

def all : List Tag :=
  [real, integer, string, bool, vectorReal, vectorVectorReal, vectorString, vectorComplex,
    matrixReal, vectorStereoSample, vectorVectorComplex]

def ofName (name : String) : Tag :=
  (all.find? (·.name == name)).getD (other name)

/-- A tag as a catalog holds it: a spelling of the vocabulary is never kept as a foreign one. -/
def IsCanonical (t : Tag) : Prop := ofName t.name = t

@[simp] theorem name_ofName (name : String) : (ofName name).name = name := by
  unfold ofName
  cases h : all.find? (·.name == name) with
  | none => rfl
  | some t => simpa using List.find?_some h

theorem isCanonical_ofName (name : String) : (ofName name).IsCanonical := by
  simp [IsCanonical]

def isParameterType : Tag → Bool
  | real | integer | string | bool | vectorReal => true
  | _ => false

def isKnown : Tag → Bool
  | other _ => false
  | _ => true

end Tag

end Bindery
