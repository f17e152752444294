import Bindery.Json.Value

/-!
# Writing JSON

Two layouts of the same value: `compact` without any space, and `pretty` with
one element a line and two spaces for each level. Both write a string with the
short escapes where there are any, and controls by their code.
-/

namespace Bindery.Json

/-- A character as it is written inside a string. -/
def escapedChar (c : Char) : List Char :=
  match c with
  | '"' => ['\\', '"']
  | '\\' => ['\\', '\\']
  | '\x08' => ['\\', 'b']
  | '\x0c' => ['\\', 'f']
  | '\n' => ['\\', 'n']
  | '\r' => ['\\', 'r']
  | '\t' => ['\\', 't']
  | c =>
    if c.toNat < 0x20 then
      ['\\', 'u', '0', '0', Nat.digitChar (c.toNat / 16), Nat.digitChar (c.toNat % 16)]
    else [c]

def stringText (s : String) : List Char :=
  '"' :: s.toList.flatMap escapedChar ++ ['"']

/-- The pieces one after another with a comma between neighbours. -/
def commaSeparated (pieces : List (List Char)) : List Char :=
  [','].intercalate pieces

namespace Value

mutual

def compactText : Value → List Char
  | .null => ['n', 'u', 'l', 'l']
  | .bool true => ['t', 'r', 'u', 'e']
  | .bool false => ['f', 'a', 'l', 's', 'e']
  | .number n => n.text.toList
  | .string s => stringText s
  | .array items => '[' :: commaSeparated (compactItems items) ++ [']']
  | .object members => '\x7b' :: commaSeparated (compactMembers members) ++ ['\x7d']

def compactItems : List Value → List (List Char)
  | [] => []
  | v :: rest => v.compactText :: compactItems rest

def compactMembers : List (String × Value) → List (List Char)
  | [] => []
  | (name, v) :: rest => (stringText name ++ ':' :: v.compactText) :: compactMembers rest

end

def newLine (level : Nat) : List Char := '\n' :: List.replicate (2 * level) ' '

/-- Pieces between brackets, the closing one on a line of its own unless there are none. -/
def bracketed (first last : Char) (level : Nat) : List (List Char) → List Char
  | [] => [first, last]
  | pieces => first :: commaSeparated pieces ++ newLine level ++ [last]

mutual

/-- The characters of the layout with one element a line, inside `level` containers. -/
def prettyText (level : Nat) : Value → List Char
  | .array items => bracketed '[' ']' level (prettyItems (level + 1) items)
  | .object members => bracketed '\x7b' '\x7d' level (prettyMembers (level + 1) members)
  | .null => ['n', 'u', 'l', 'l']
  | .bool true => ['t', 'r', 'u', 'e']
  | .bool false => ['f', 'a', 'l', 's', 'e']
  | .number n => n.text.toList
  | .string s => stringText s

def prettyItems (level : Nat) : List Value → List (List Char)
  | [] => []
  | v :: rest => (newLine level ++ v.prettyText level) :: prettyItems level rest

def prettyMembers (level : Nat) : List (String × Value) → List (List Char)
  | [] => []
  | (name, v) :: rest =>
    (newLine level ++ stringText name ++ [':', ' '] ++ v.prettyText level) ::
      prettyMembers level rest

end

def compact (v : Value) : String := String.ofList v.compactText

def pretty (v : Value) : String := String.ofList (v.prettyText 0)

end Value

end Bindery.Json
