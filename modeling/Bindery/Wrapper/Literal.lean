import Bindery.Algorithm
import Bindery.Text.Blank

/-!
# Literals of the wrapper language

Texts stand between single quotes; inside, quotes and backslashes have a backslash
before them. Real numbers that are not finite have names. Every other default is
a literal as it is.
-/

namespace Bindery.Wrapper

/-- Quotes and backslashes with a backslash before them. -/
def escapedText : List Char → List Char
  | [] => []
  | c :: rest =>
    if c = '\\' ∨ c = '\'' then '\\' :: c :: escapedText rest else c :: escapedText rest

def escaped (s : String) : String := String.ofList (escapedText s.toList)

def singleQuoted (s : String) : String := "'" ++ escaped s ++ "'"

/-- A real default; what is not finite has a name. -/
def realLiteral (literal : String) : String :=
  match Text.trimmed literal with
  | "inf" => "Infinity"
  | "-inf" => "-Infinity"
  | "nan" => "NaN"
  | finite => finite

def defaultLiteral (p : Parameter) : String :=
  match p.tag with
  | .string => singleQuoted p.default
  | .real => realLiteral p.default
  | _ => p.default

/-- A value of this tag has to become a vector before the backend takes it. -/
def needsCoercion : Tag → Bool
  | .vectorReal | .vectorComplex | .matrixReal => true
  | _ => false

/-- How containers of this tag are called in comments. -/
def container? : Tag → Option String
  | .vectorReal | .vectorComplex | .matrixReal => some "VectorFloat"
  | .vectorString => some "VectorString"
  | .vectorVectorReal | .vectorVectorComplex | .vectorStereoSample => some "VectorVectorFloat"
  | _ => none

end Bindery.Wrapper
