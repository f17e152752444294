import Bindery.Algorithm
import Bindery.Text.Blank

/-!
# Native signatures

The parameters of a constructor and the inputs of a computation as native
arguments. Declarations give the defaults of parameters, definitions leave them
out; everything else about an argument is the same in both.
-/

namespace Bindery.Native

/-- An argument of a native function. -/
structure Argument where
  type : String
  name : String
  default : Option String := none
deriving Repr, DecidableEq

namespace Argument

def plain (a : Argument) : Argument := { a with default := none }

def text (a : Argument) : String :=
  a.type ++ " " ++ a.name ++
    match a.default with
    | some d => "=" ++ d
    | none => ""

end Argument

/-- Arguments between the parentheses of a function. -/
def argumentList (as : List Argument) : String := ", ".intercalate (as.map Argument.text)

/-- The type of a constructor's argument: a constant of the native type, texts by reference. -/
def constantType (tag : Tag) (base : String) : String :=
  match tag with
  | .string => "const " ++ base ++ "&"
  | _ => "const " ++ base

/-- A real default as a native expression; what is not finite has a name there. -/
def realDefault (literal : String) : String :=
  match Text.trimmed literal with
  | "inf" => "std::numeric_limits<float>::infinity()"
  | "-inf" => "-std::numeric_limits<float>::infinity()"
  | "nan" => "std::numeric_limits<float>::quiet_NaN()"
  | finite => finite

def braced (literal : String) : String :=
  String.ofList (literal.toList.map fun c =>
    if c = '[' then '\x7b' else if c = ']' then '\x7d' else c)

/-- A default as a native expression. -/
def defaultText (tag : Tag) (literal : String) : String :=
  match tag with
  | .string => "\"" ++ literal ++ "\""
  | .vectorReal =>
    "std::vector<float>" ++ if Text.trimmed literal = "[]" then "()" else braced literal
  | .real => realDefault literal
  | _ => literal

/-- A parameter as a native argument, if its type can be one. -/
def argument? (p : Parameter) : Option Argument :=
  if p.tag.isParameterType then
    p.tag.native?.map fun native =>
      ⟨constantType p.tag native, p.name, some (defaultText p.tag p.default)⟩
  else none

/-- A value that has to be there for a field of an algorithm to be expressible. -/
def require {α : Type} (a : Algorithm) (field : String) (surface : Surface) (tag : Tag)
    (found : Option α) : Except GenerationError α :=
  match found with
  | some x => .ok x
  | none => .error (.unsupportedType a.name field surface tag)

/-- The parameters of an algorithm as native arguments. -/
def parameters (a : Algorithm) : Except GenerationError (List Argument) :=
  a.parameters.mapM fun p => require a p.name .native p.tag (argument? p)

/-- The inputs of an algorithm as native arguments. -/
def inputs (a : Algorithm) : Except GenerationError (List Argument) :=
  a.inputs.mapM fun i =>
    (require a i.name .native i.tag i.tag.native?).map fun native => ⟨native, i.ident, none⟩

/-- What a native class takes: when it is made or configured, and when it computes. -/
structure Signature where
  parameters : List Argument
  inputs : List Argument
deriving Repr, DecidableEq

/-- The signature of an algorithm's native class. -/
def Signature.of (a : Algorithm) : Except GenerationError Signature := do
  return ⟨← Native.parameters a, ← Native.inputs a⟩

def resultType : String := "val"

/-- Names and variables of parameters in turn, as the factory takes them. -/
def namedArguments (names : List String) : String :=
  ", ".intercalate (names.map fun name => "\"" ++ name ++ "\", " ++ name)

end Bindery.Native
