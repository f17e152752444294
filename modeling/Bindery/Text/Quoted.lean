import Bindery.Text.LowerCase
import Bindery.Text.PrintTable

/-!
# Quoted texts

A text between double quotes for people to read: quotes, backslashes and the
usual controls have short escapes, and a character that would not be seen, or
would melt into the one before it, is written by its code point.
-/

namespace Bindery.Text

/-- Characters that show as themselves wherever they stand. -/
def showsAsItself (c : Char) : Bool :=
  !inRanges unprintableRanges c && !inRanges extendingRanges c

/-- A character as it is written between the quotes. -/
def quotedChar (c : Char) : List Char :=
  match c with
  | '\x00' => ['\\', '0']
  | '\t' => ['\\', 't']
  | '\r' => ['\\', 'r']
  | '\n' => ['\\', 'n']
  | '\\' => ['\\', '\\']
  | '"' => ['\\', '"']
  | c =>
    if showsAsItself c then [c]
    else ['\\', 'u', '\x7b'] ++ Nat.toDigits 16 c.toNat ++ ['\x7d']

def quoted (s : String) : String :=
  String.ofList ('"' :: s.toList.flatMap quotedChar ++ ['"'])

end Bindery.Text
