/-!
# Characters of a YAML text

A text is made of permitted characters only, a mark of its byte order at the start
apart. Line breaks are brought to one form each before anything is read, so that
every break is one character.
-/

namespace Bindery.Yaml

/-- Why a text is refused. -/
inductive Error where
  /-- A character that no text may hold. -/
  | forbidden (c : Char)
  /-- A scalar that is not closed, or that has no such form. -/
  | badScalar
  | badIndentation
  /-- Something that stands where it cannot. -/
  | misplaced
  /-- More follows after the first document. -/
  | severalDocuments
  /-- A value of another kind than the wanted one. -/
  | wrongKind
  | unknownMember (name : String)
  | duplicateMember (name : String)
  | missingMember (name : String)
deriving Repr, DecidableEq

/-- What is said about a refused text: that it is refused, and no more. -/
def Error.message (_ : Error) : String := "<yaml>"

def isPermitted (c : Char) : Bool :=
  let n := c.toNat
  n == 0x9 || n == 0xa || n == 0xd || (0x20 ≤ n && n ≤ 0x7e) || n == 0x85 ||
    (0xa0 ≤ n && n ≤ 0xfffd && n != 0xfeff) || 0x10000 ≤ n

/-- Every break in one form: a new line, or a separator of lines or paragraphs. -/
def unifyBreaks : List Char → List Char
  | [] => []
  | '\r' :: '\n' :: rest => '\n' :: unifyBreaks rest
  | c :: rest => (if c = '\r' ∨ c = '\u0085' then '\n' else c) :: unifyBreaks rest

/-- The characters of a text without the mark of its byte order. -/
def withoutMark (s : String) : List Char :=
  match s.toList with
  | '\ufeff' :: cs => cs
  | cs => cs

def source (s : String) : Except Error (List Char) :=
  match (withoutMark s).find? (!isPermitted ·) with
  | some c => .error (.forbidden c)
  | none => .ok (unifyBreaks (withoutMark s))

def isBlank (c : Char) : Bool := c == ' ' || c == '\t'

def isBreak (c : Char) : Bool := c == '\n' || c == '\u2028' || c == '\u2029'

/-- What stands before these characters has come to an end. -/
def atEnd : List Char → Bool
  | [] => true
  | c :: _ => isBlank c || isBreak c

/-- Three times `m` and nothing else: a line's begin that starts or ends a document. -/
def isMarker (m : Char) : List Char → Bool
  | a :: b :: c :: rest => a == m && b == m && c == m && atEnd rest
  | _ => false

def isDocumentMarker (cs : List Char) : Bool := isMarker '-' cs || isMarker '.' cs

/-- The marks that make up collections within a line. -/
def isFlowMark (c : Char) : Bool :=
  c == ',' || c == '[' || c == ']' || c == '\x7b' || c == '\x7d'

/-- A place in a text. -/
structure Place where
  index : Nat := 0
  line : Nat := 0
  column : Nat := 0
deriving Repr, DecidableEq

def Place.next (p : Place) : Place := ⟨p.index + 1, p.line, p.column + 1⟩

def Place.newLine (p : Place) : Place := ⟨p.index + 1, p.line + 1, 0⟩

end Bindery.Yaml
