import Bindery.Text.Hex
import Bindery.Yaml.Source

/-!
# YAML scalars

Plain scalars and scalars in single and double quotes, read character by
character. What lies between two words of a scalar is a gap: blanks within a line
stand for themselves, and a gap over lines folds to one space or to its breaks
after the first.
-/

namespace Bindery.Yaml

/-- What has been passed since the last word of a scalar. -/
inductive Gap where
  /-- Blanks, last first. -/
  | blanks (cs : List Char)
  /-- The break of the word's line, unless it does not count, and the further ones, last first. -/
  | lines (first : Option Char) (others : List Char)
deriving Repr, DecidableEq

namespace Gap

def none : Gap := .blanks []

def blank (c : Char) : Gap → Gap
  | .blanks cs => .blanks (c :: cs)
  | g => g

def newLine (c : Char) : Gap → Gap
  | .blanks _ => .lines (some c) []
  | .lines first others => .lines first (c :: others)

def leavesLine : Gap → Bool
  | .blanks _ => false
  | .lines .. => true

/-- What the gap stands for, last character first. -/
def folded : Gap → List Char
  | .blanks cs => cs
  | .lines (some '\n') [] => [' ']
  | .lines (some '\n') others => others
  | .lines first others => others ++ first.toList

end Gap

/-- A scalar with what follows it. -/
structure ScannedScalar where
  text : String
  /-- The text goes on in another line. -/
  leavesLine : Bool
  place : Place
  rest : List Char
deriving Repr, DecidableEq

/-- A scalar of the characters `read`, which are held last first. -/
def ScannedScalar.of (read : List Char) (g : Gap) (p : Place) (rest : List Char) : ScannedScalar :=
  ⟨String.ofList read.reverse, g.leavesLine, p, rest⟩

/-- A plain scalar that has come to the characters after a gap goes no further. -/
def endsPlain (inFlow : Bool) (indent : Nat) (g : Gap) (p : Place) : List Char → Bool
  | [] => true
  | c :: rest =>
    (g.leavesLine && !inFlow && p.column < indent) ||
    (p.column == 0 && isDocumentMarker (c :: rest)) ||
    (c == '#' && g != .none) ||
    (c == ':' && atEnd rest) ||
    (inFlow && isFlowMark c)

/-- A colon that neither ends a scalar in a flow collection nor belongs to it. -/
def isStrayColon : List Char → Bool
  | ':' :: c :: _ => isFlowMark c || c == '?'
  | _ => false

/-- Reads a plain scalar, whose further lines are indented by `indent` at least. -/
def readPlain (inFlow : Bool) (indent : Nat) (read : List Char) (g : Gap) (p : Place) :
    List Char → Except Error ScannedScalar
  | [] => .ok (.of read g p [])
  | c :: rest =>
    if isBlank c then
      if g.leavesLine && p.column < indent && c == '\t' then .error .badIndentation
      else readPlain inFlow indent read (g.blank c) p.next rest
    else if isBreak c then readPlain inFlow indent read (g.newLine c) p.newLine rest
    else if endsPlain inFlow indent g p (c :: rest) then .ok (.of read g p (c :: rest))
    else if inFlow && isStrayColon (c :: rest) then .error .badScalar
    else readPlain inFlow indent (c :: (g.folded ++ read)) .none p.next rest

/-- Reads a scalar in single quotes from after the first. A quote is written twice; `quote` says
that one has just been passed. -/
def readSingle (quote : Bool) (read : List Char) (g : Gap) (p : Place) :
    List Char → Except Error ScannedScalar
  | [] => if quote then .ok (.of read .none p []) else .error .badScalar
  | c :: rest =>
    if quote then
      if c == '\'' then readSingle false (c :: read) .none p.next rest
      else .ok (.of read .none p (c :: rest))
    else if p.column == 0 && isDocumentMarker (c :: rest) then .error .badScalar
    else if isBlank c then readSingle false read (g.blank c) p.next rest
    else if isBreak c then readSingle false read (g.newLine c) p.newLine rest
    else if c == '\'' then readSingle true (g.folded ++ read) .none p.next rest
    else readSingle false (c :: (g.folded ++ read)) .none p.next rest

/-- The character that a letter after a backslash denotes. -/
def escaped? (c : Char) : Option Char :=
  match c with
  | '0' => some '\x00'
  | 'a' => some '\x07'
  | 'b' => some '\x08'
  | 't' => some '\t'
  | '\t' => some '\t'
  | 'n' => some '\n'
  | 'v' => some '\x0b'
  | 'f' => some '\x0c'
  | 'r' => some '\r'
  | 'e' => some '\x1b'
  | ' ' => some ' '
  | '"' => some '"'
  | '/' => some '/'
  | '\\' => some '\\'
  | 'N' => some '\u0085'
  | '_' => some '\u00a0'
  | 'L' => some '\u2028'
  | 'P' => some '\u2029'
  | _ => none

/-- How many hexadecimal digits follow a letter after a backslash. -/
def digitsAfter? (c : Char) : Option Nat :=
  match c with
  | 'x' => some 2
  | 'u' => some 4
  | 'U' => some 8
  | _ => none

/-- The part of an escape that has been read. -/
inductive Escape where
  | none
  /-- Its backslash. -/
  | begun
  /-- Digits of the value so far; so many are left. -/
  | digits (left value : Nat)
deriving Repr, DecidableEq

def charOf? (n : Nat) : Option Char :=
  if h : n.isValidChar then some (Char.ofNatAux n h) else none

/-- Reads a scalar in double quotes from after the first. -/
def readDouble (e : Escape) (read : List Char) (g : Gap) (p : Place) :
    List Char → Except Error ScannedScalar
  | [] => .error .badScalar
  | c :: rest =>
    match e with
    | .none =>
      if p.column == 0 && isDocumentMarker (c :: rest) then .error .badScalar
      else if isBlank c then readDouble .none read (g.blank c) p.next rest
      else if isBreak c then readDouble .none read (g.newLine c) p.newLine rest
      else if c == '"' then .ok (.of (g.folded ++ read) .none p.next rest)
      else if c == '\\' then readDouble .begun (g.folded ++ read) .none p.next rest
      else readDouble .none (c :: (g.folded ++ read)) .none p.next rest
    | .begun =>
      if isBreak c then readDouble .none read (.lines none []) p.newLine rest
      else
        match digitsAfter? c, escaped? c with
        | some left, _ => readDouble (.digits left 0) read g p.next rest
        | none, some d => readDouble .none (d :: read) g p.next rest
        | none, none => .error .badScalar
    | .digits left value =>
      match Text.hexValue? c with
      | none => .error .badScalar
      | some h =>
        if left ≤ 1 then
          match charOf? (value * 16 + h) with
          | some d => readDouble .none (d :: read) g p.next rest
          | none => .error .badScalar
        else readDouble (.digits (left - 1) (value * 16 + h)) read g p.next rest

end Bindery.Yaml
