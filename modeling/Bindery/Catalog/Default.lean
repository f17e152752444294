import Bindery.Catalog.Tag
import Bindery.Decimal.Numeral
import Bindery.Text.Blank

/-!
# Default values

Which literals a parameter of a type may have as its default.
-/

namespace Bindery

open Decimal (isReal integer?)
open Text (trim)

/-- The text between an opening and a closing bracket at the two ends. -/
def betweenBrackets? (cs : List Char) : Option (List Char) :=
  match cs with
  | '[' :: rest => if rest.getLast? = some ']' then some rest.dropLast else none
  | _ => none

/-- The items of a bracketed list; none when nothing but blanks stands between the brackets. -/
def vectorItems (inner : List Char) : List (List Char) :=
  if (trim inner).isEmpty then [] else (inner.splitOn ',').map trim

/-- The literal denotes a value of the type. Only parameter types have literals. -/
def Tag.accepts (tag : Tag) (literal : String) : Bool :=
  let cs := literal.toList
  match tag with
  | .real => isReal (trim cs)
  | .integer => (integer? (trim cs)).isSome
  | .bool => literal == "true" || literal == "false"
  | .string => !cs.contains '"'
  | .vectorReal =>
    match betweenBrackets? (trim cs) with
    | none => false
    | some inner => (vectorItems inner).all isReal
  | _ => false

end Bindery
