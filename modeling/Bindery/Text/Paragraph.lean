/-!
# Paragraphs

A paragraph ends where two line feeds follow each other.
-/

namespace Bindery.Text

/-- The characters before the first two line feeds in a row. -/
def beforeBlankLine : List Char → List Char
  | [] => []
  | '\n' :: '\n' :: _ => []
  | c :: rest => c :: beforeBlankLine rest

def firstParagraph (s : String) : String :=
  String.ofList (beforeBlankLine s.toList)

end Bindery.Text
