import Bindery.Json.Draft
import Bindery.Text.Hex

/-!
# Reading JSON

From characters to drafts, one character after the other. Nesting is bounded by
`fuel`, which the length of the text sets so high that it never ends first.
-/

namespace Bindery.Json

open Bindery.Decimal (isDigit)
open Bindery.Text (hexValue?)

/-- The four characters that may stand between the parts of a text. -/
def isSpace (c : Char) : Bool := c == ' ' || c == '\t' || c == '\n' || c == '\r'

/-- The text from its next visible character on. -/
def skipSpace (cs : List Char) : List Char := cs.dropWhile isSpace

/-- The number that four hexadecimal digits denote. -/
def codeUnit? (a b c d : Char) : Option Nat := do
  let h ← hexValue? a
  let i ← hexValue? b
  let j ← hexValue? c
  let k ← hexValue? d
  return ((h * 16 + i) * 16 + j) * 16 + k

/-- How a text breaks where four hexadecimal digits are missing: it is too short when fewer than
four bytes are left. -/
def digitsMissing (cs : List Char) : Break :=
  if (cs.take 4).foldl (fun n c => n + c.utf8Size) 0 < 4 then .truncated else .malformed

def isLeading (n : Nat) : Bool := 0xd800 ≤ n && n ≤ 0xdbff

def isTrailing (n : Nat) : Bool := 0xdc00 ≤ n && n ≤ 0xdfff

/-- The character that two halves denote together. -/
def pairedChar (first second : Nat) : Char :=
  Char.ofNat (0x10000 + (first - 0xd800) * 0x400 + (second - 0xdc00))

def shortEscape? (c : Char) : Option Char :=
  match c with
  | '"' => some '"'
  | '\\' => some '\\'
  | '/' => some '/'
  | 'b' => some '\x08'
  | 'f' => some '\x0c'
  | 'n' => some '\n'
  | 'r' => some '\r'
  | 't' => some '\t'
  | _ => none

/-- The part of a string that has been read: its characters, last first; the same with the first
half of a pair after them; or escapes that denote no text. -/
inductive Progress where
  | text (chars : List Char)
  | half (chars : List Char) (first : Nat)
  | spoiled
deriving Repr, DecidableEq

namespace Progress

def push (c : Char) : Progress → Progress
  | .text chars => .text (c :: chars)
  | _ => .spoiled

/-- A code unit follows: a character, or a half that only the other half completes. -/
def pushUnit (n : Nat) : Progress → Progress
  | .text chars =>
    if isTrailing n then .spoiled
    else if isLeading n then .half chars n
    else .text (Char.ofNat n :: chars)
  | .half chars first => if isTrailing n then .text (pairedChar first n :: chars) else .spoiled
  | .spoiled => .spoiled

def close : Progress → Except Flaw String
  | .text chars => .ok (String.ofList chars.reverse)
  | _ => .error ⟨.malformed, none⟩

def breakOff (b : Break) : Progress → Except Flaw String
  | .spoiled => .error ⟨.malformed, some b⟩
  | _ => .error b.flaw

end Progress

/-- Reads a string from after its opening quote and gives back what follows it. -/
def readString (read : Progress) : List Char → Except Flaw String × List Char
  | [] => (read.breakOff .truncated, [])
  | '"' :: rest => (read.close, rest)
  | ['\\'] => (read.breakOff .truncated, [])
  | '\\' :: 'u' :: a :: b :: c :: d :: rest =>
    match codeUnit? a b c d with
    | some n => readString (read.pushUnit n) rest
    | none => (read.breakOff (digitsMissing (a :: b :: c :: d :: rest)), [])
  | '\\' :: 'u' :: rest => (read.breakOff (digitsMissing rest), [])
  | '\\' :: c :: rest =>
    match shortEscape? c with
    | some e => readString (read.push e) rest
    | none => (read.breakOff .malformed, [])
  | c :: rest =>
    if c.toNat < 0x20 then (read.breakOff .malformed, [])
    else readString (read.push c) rest

/-- Digits are missing at this place of a number: skipping one does not tell a short text from a
wrong one. -/
def digitFlaw (cs : List Char) : Flaw :=
  if cs.isEmpty then ⟨.truncated, some .malformed⟩ else Break.malformed.flaw

/-- Reads the exponent of a number, if one stands there. -/
def readExponent : List Char → Except Flaw (Option (Bool × List Char) × List Char)
  | c :: rest =>
    if c == 'e' || c == 'E' then
      let body :=
        match rest with
        | '+' :: body => body
        | '-' :: body => body
        | body => body
      let digits := body.takeWhile isDigit
      if digits.isEmpty then .error (digitFlaw body)
      else .ok (some (rest.head? == some '-', digits), body.dropWhile isDigit)
    else .ok (none, c :: rest)
  | [] => .ok (none, [])

/-- Reads the digits after the point of a number, if one stands there. -/
def readFraction : List Char → Except Flaw (Option (List Char) × List Char)
  | '.' :: rest =>
    let digits := rest.takeWhile isDigit
    if digits.isEmpty then .error (digitFlaw rest)
    else .ok (some digits, rest.dropWhile isDigit)
  | cs => .ok (none, cs)

/-- Reads the digits before the point: one zero, or digits that do not start with a zero. -/
def readWhole (cs : List Char) : Except Flaw (List Char × List Char) :=
  let digits := cs.takeWhile isDigit
  match digits with
  | [] => .error (digitFlaw cs)
  | '0' :: _ :: _ => .error Break.malformed.flaw
  | _ => .ok (digits, cs.dropWhile isDigit)

/-- Reads the parts of a number after its sign. -/
def readSpelling (negative : Bool) (cs : List Char) : Except Flaw (Spelling × List Char) := do
  let (whole, cs) ← readWhole cs
  let (fraction, cs) ← readFraction cs
  let (exponent, cs) ← readExponent cs
  return (⟨negative, whole, fraction, exponent⟩, cs)

def readNumber (negative : Bool) (cs : List Char) : Draft × List Char :=
  match readSpelling negative cs with
  | .error flaw => (.flawed flaw, [])
  | .ok (spelling, rest) =>
    match spelling.number? with
    | some n => (.number n, rest)
    | none => (.flawed ⟨.malformed, none⟩, rest)

/-- Reads a fixed word that denotes `v`. -/
def readWord (v : Draft) : List Char → List Char → Draft × List Char
  | [], rest => (v, rest)
  | _ :: _, [] => (.flawed Break.truncated.flaw, [])
  | w :: word, c :: rest =>
    if w = c then readWord v word rest else (.flawed Break.malformed.flaw, [])

mutual

/-- Reads a value and gives back what follows it. -/
def readValue : Nat → List Char → Draft × List Char
  | 0, _ => (.flawed Break.truncated.flaw, [])
  | fuel + 1, cs =>
    match skipSpace cs with
    | [] => (.flawed Break.truncated.flaw, [])
    | c :: rest =>
      if c = '[' then
        match skipSpace rest with
        | ']' :: rest => (.array .close, rest)
        | _ =>
          let (items, rest) := readItems fuel rest
          (.array items, rest)
      else if c = '\x7b' then
        match skipSpace rest with
        | '\x7d' :: rest => (.object .close, rest)
        | _ =>
          let (members, rest) := readMembers fuel rest
          (.object members, rest)
      else if c = '"' then
        match readString (.text []) rest with
        | (.ok s, rest) => (.string s, rest)
        | (.error flaw, rest) => (.flawed flaw, rest)
      else if c = 'n' then readWord .null ['u', 'l', 'l'] rest
      else if c = 't' then readWord (.bool true) ['r', 'u', 'e'] rest
      else if c = 'f' then readWord (.bool false) ['a', 'l', 's', 'e'] rest
      else if c = '-' then readNumber true rest
      else if isDigit c then readNumber false (c :: rest)
      else (.flawed Break.malformed.flaw, [])

/-- Reads the elements of an array from a place where one should stand. -/
def readItems : Nat → List Char → Items × List Char
  | 0, _ => (.broken .truncated, [])
  | fuel + 1, cs =>
    let (v, rest) := readValue fuel cs
    match skipSpace rest with
    | [] => (.item v (.broken .truncated), [])
    | c :: rest =>
      if c = ',' then
        let (items, rest) := readItems fuel rest
        (.item v items, rest)
      else if c = ']' then (.item v .close, rest)
      else (.item v (.broken .malformed), [])

/-- Reads the members of an object from a place where a name should stand. -/
def readMembers : Nat → List Char → Members × List Char
  | 0, _ => (.broken .truncated, [])
  | fuel + 1, cs =>
    match skipSpace cs with
    | [] => (.stray none, [])
    | '"' :: rest =>
      let (key, rest) := readString (.text []) rest
      match skipSpace rest with
      | ':' :: rest =>
        let (v, rest) := readValue fuel rest
        match skipSpace rest with
        | [] => (.member key v (.broken .truncated), [])
        | c :: rest =>
          if c = ',' then
            let (members, rest) := readMembers fuel rest
            (.member key v members, rest)
          else if c = '\x7d' then (.member key v .close, rest)
          else (.member key v (.broken .malformed), [])
      | [] => (.member key (.flawed Break.truncated.flaw) (.broken .truncated), [])
      | _ => (.member key (.flawed Break.malformed.flaw) (.broken .malformed), [])
    | rest => (.stray (some (readValue fuel rest).1), [])

end

/-- A whole text: the value it begins with, and whether anything visible follows. -/
structure Document where
  root : Draft
  trailing : Bool

def Document.ofText (s : String) : Document :=
  let cs := s.toList
  let (root, rest) := readValue (2 * cs.length + 2) cs
  ⟨root, !(skipSpace rest).isEmpty⟩

end Bindery.Json
