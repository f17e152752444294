import Bindery.Json.Draft
import Bindery.Json.Writer
import Bindery.Text.Quoted

/-!
# Why a JSON text is refused

Either the text is no JSON, or it is and says something that is not asked for.
-/

namespace Bindery.Json

/-- A value that stands where another kind is wanted. -/
inductive Found where
  | null
  | bool (b : Bool)
  | number (n : Number)
  | string (s : String)
  | sequence
  | map
deriving Repr, DecidableEq

/-- What a well-formed text does wrong. -/
inductive Cause where
  | missingMember (name : String)
  | duplicateMember (name : String)
  | unknownMember (name : String) (expected : List String)
  | unknownVariant (name : String) (expected : List String)
  | wrongKind (found : Found) (wanted : String)
  /-- An array ends after `count` of the members of a record that has `size`. -/
  | tooShort (count : Nat) (record : String) (size : Nat)
  | unsupportedLiteral (value : Value)
deriving Repr

/-- Why a text is refused. -/
inductive Error where
  | broken (b : Break)
  | data (cause : Cause)
deriving Repr

def Found.describe : Found → String
  | .null => "null"
  | .bool b => "boolean `" ++ toString b ++ "`"
  | .number (.integer n) => "integer `" ++ toString n ++ "`"
  | .number n => "floating point `" ++ n.text ++ "`"
  | .string s => "string " ++ Text.quoted s
  | .sequence => "sequence"
  | .map => "map"

def oneOf (names : List String) : String :=
  match names.map fun name => "`" ++ name ++ "`" with
  | [] => "nothing"
  | [a] => a
  | [a, b] => a ++ " or " ++ b
  | all => "one of " ++ ", ".intercalate all

def Cause.message : Cause → String
  | .missingMember name => "missing field `" ++ name ++ "`"
  | .duplicateMember name => "duplicate field `" ++ name ++ "`"
  | .unknownMember name expected => "unknown field `" ++ name ++ "`, expected " ++ oneOf expected
  | .unknownVariant name expected => "unknown variant `" ++ name ++ "`, expected " ++ oneOf expected
  | .wrongKind found wanted => "invalid type: " ++ found.describe ++ ", expected " ++ wanted
  | .tooShort count record size =>
    "invalid length " ++ toString count ++ ", expected struct " ++ record ++ " with " ++
      toString size ++ if size = 1 then " element" else " elements"
  | .unsupportedLiteral value => "unsupported default literal: " ++ value.compact

def Error.message : Error → String
  | .broken .truncated => "<eof>"
  | .broken .malformed => "<syntax>"
  | .data cause => cause.message

def Draft.wrongKind (wanted : String) : Draft → Error
  | .null => .data (.wrongKind .null wanted)
  | .bool b => .data (.wrongKind (.bool b) wanted)
  | .number n => .data (.wrongKind (.number n) wanted)
  | .string s => .data (.wrongKind (.string s) wanted)
  | .flawed flaw => .broken flaw.kept
  | .array _ => .data (.wrongKind .sequence wanted)
  | .object _ => .data (.wrongKind .map wanted)

end Bindery.Json
