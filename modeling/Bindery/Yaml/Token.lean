import Bindery.Yaml.Scalar

/-!
# YAML tokens

Scalars and the marks of collections and documents, in which indentation has
become marks of its own. A colon makes the scalar or collection before it a key:
`Key` remembers where that began, so that the marks of the key can be put there
once its colon is met.

Only a part of YAML is read: block and flow collections, plain and quoted scalars,
comments, and the marks around a document. Where an anchor, an alias, a tag, a block
scalar or a directive begins, the text is refused.
-/

namespace Bindery.Yaml

/-- A token of a text. -/
inductive Token where
  | documentStart
  | documentEnd
  /-- A block sequence starts. -/
  | sequence
  /-- A block mapping starts. -/
  | mapping
  /-- A block collection ends. -/
  | dedent
  /-- A flow sequence starts. -/
  | openSequence
  | closeSequence
  /-- A flow mapping starts. -/
  | openMapping
  | closeMapping
  /-- An item of a block sequence follows. -/
  | item
  /-- A comma of a flow collection. -/
  | comma
  | key
  | value
  | scalar (text : String) (plain : Bool)
deriving Repr, DecidableEq

/-- Where a key may have begun. -/
structure Key where
  place : Place
  /-- The tokens before it. -/
  tokens : Nat
  /-- Nothing else can stand there. -/
  required : Bool
deriving Repr, DecidableEq

/-- A text that has been read in part. -/
structure Scan where
  rest : List Char
  place : Place := {}
  /-- The tokens so far, last first. -/
  tokens : List Token := []
  /-- The columns of the open block collections, innermost first. -/
  indents : List Nat := []
  /-- The key that a colon would complete here. -/
  pending : Option Key := none
  /-- The same for the collections around the open flow collections, innermost first. -/
  outer : List (Option Key) := []
  /-- A key may begin here. -/
  keyAllowed : Bool := true
deriving Repr

/-- Passes blanks, breaks and comments; gives back whether a break was passed, the place, and what
follows. Tabs count as blanks if `tabs` says so, which it does not at the start of a line of
block collections. -/
def skipGap (inFlow comment tabs left : Bool) (p : Place) : List Char → Bool × Place × List Char
  | [] => (left, p, [])
  | c :: rest =>
    if isBreak c then skipGap inFlow false inFlow true p.newLine rest
    else if comment then skipGap inFlow true tabs left p.next rest
    else if c == ' ' || (tabs && c == '\t') then skipGap inFlow false tabs left p.next rest
    else if c == '#' then skipGap inFlow true tabs left p.next rest
    else (left, p, c :: rest)

namespace Scan

def inFlow (s : Scan) : Bool := !s.outer.isEmpty

def push (t : Token) (s : Scan) : Scan := { s with tokens := t :: s.tokens }

/-- Passes what is no token. Behind a break of block collections a key may begin. -/
def toToken (s : Scan) : Scan :=
  let (left, p, rest) := skipGap s.inFlow false (s.inFlow || !s.keyAllowed) false s.place s.rest
  { s with rest := rest, place := p, keyAllowed := s.keyAllowed || (left && !s.inFlow) }

/-- No key that has begun so far away can be completed here. -/
def isStale (p : Place) (k : Key) : Bool := k.place.line < p.line || k.place.index + 1024 < p.index

def stillPossible (p : Place) : Option Key → Except Error (Option Key)
  | none => .ok none
  | some k =>
    if isStale p k then if k.required then .error .misplaced else .ok none
    else .ok (some k)

/-- Gives up the keys that are no longer possible. -/
def dropStale (s : Scan) : Except Error Scan := do
  let pending ← stillPossible s.place s.pending
  let outer ← s.outer.mapM (stillPossible s.place)
  return { s with pending, outer }

def dropKey (s : Scan) : Except Error Scan :=
  match s.pending with
  | some k => if k.required then .error .misplaced else .ok { s with pending := none }
  | none => .ok s

def noteKey (s : Scan) : Except Error Scan :=
  if s.keyAllowed then do
    let required := !s.inFlow && s.indents.head? == some s.place.column
    let s ← s.dropKey
    return { s with pending := some ⟨s.place, s.tokens.length, required⟩ }
  else .ok s

/-- Closes the block collections that `closed` tells by their columns. -/
def closeBlocks (closed : Nat → Bool) (s : Scan) : Scan :=
  if s.inFlow then s
  else
    let ended := (s.indents.takeWhile closed).map fun _ => Token.dedent
    { s with tokens := ended ++ s.tokens, indents := s.indents.dropWhile closed }

/-- Opens a block collection at a column, with its mark `t` behind the first `count` tokens,
unless one is open there. -/
def openBlock (column count : Nat) (t : Token) (s : Scan) : Scan :=
  if s.inFlow || s.indents.head?.any (column ≤ ·) then s
  else
    { s with
      indents := column :: s.indents
      tokens := s.tokens.insertIdx (s.tokens.length - count) t }

/-- Passes `n` characters of a line. -/
def pass (n : Nat) (s : Scan) : Scan :=
  { s with
    rest := s.rest.drop n
    place := ⟨s.place.index + n, s.place.line, s.place.column + n⟩ }

def document (t : Token) (s : Scan) : Except Error Scan := do
  let s ← (s.closeBlocks fun _ => true).dropKey
  return { (s.push t).pass 3 with keyAllowed := false }

def openFlow (t : Token) (s : Scan) : Except Error Scan := do
  let s ← s.noteKey
  return { (s.push t).pass 1 with
    pending := none, outer := s.pending :: s.outer, keyAllowed := true }

def closeFlow (t : Token) (s : Scan) : Except Error Scan := do
  let s ← s.dropKey
  let s : Scan :=
    match s.outer with
    | k :: outer => { s with pending := k, outer }
    | [] => s
  return { (s.push t).pass 1 with keyAllowed := false }

def comma (s : Scan) : Except Error Scan := do
  let s ← s.dropKey
  return { (s.push .comma).pass 1 with keyAllowed := true }

/-- The mark of an item, or of a key that need not be in one line; `start` starts the block
collection that it may stand in. -/
def indicator (start t : Token) (s : Scan) : Except Error Scan :=
  if !s.inFlow && !s.keyAllowed then .error .misplaced
  else do
    let s ← (s.openBlock s.place.column s.tokens.length start).dropKey
    return { (s.push t).pass 1 with keyAllowed := t == .item || !s.inFlow }

def colon (s : Scan) : Except Error Scan :=
  match s.pending with
  | some k =>
    let s := { s with tokens := s.tokens.insertIdx (s.tokens.length - k.tokens) .key }
    let s := s.openBlock k.place.column k.tokens .mapping
    .ok { (s.push .value).pass 1 with pending := none, keyAllowed := false }
  | none =>
    if !s.inFlow && !s.keyAllowed then .error .misplaced
    else
      let s := s.openBlock s.place.column s.tokens.length .mapping
      .ok { (s.push .value).pass 1 with keyAllowed := !s.inFlow }

/-- A scalar that `read` reads. -/
def scalar (plain : Bool) (read : Scan → Except Error ScannedScalar) (s : Scan) :
    Except Error Scan := do
  let s ← s.noteKey
  let r ← read s
  return { s.push (.scalar r.text plain) with
    rest := r.rest, place := r.place, keyAllowed := r.leavesLine }

/-- How far the lines of a scalar are indented at least. -/
def indent (s : Scan) : Nat :=
  match s.indents with
  | [] => 0
  | column :: _ => column + 1

def plain (s : Scan) : Except Error Scan :=
  s.scalar true fun s => readPlain s.inFlow s.indent [] .none s.place s.rest

def single (s : Scan) : Except Error Scan :=
  s.scalar false fun s => readSingle false [] .none s.place.next s.rest.tail

def double (s : Scan) : Except Error Scan :=
  s.scalar false fun s => readDouble .none [] .none s.place.next s.rest.tail

/-- Characters that start no plain scalar: the first ones of comments (`#`), and of anchors (`&`),
aliases (`*`), tags (`!`), block scalars (`|`, `>`) and directives (`%`), none of which is read; two
marks without a use; and a tab where it is no blank. -/
def isReserved (c : Char) : Bool :=
  ['\t', '#', '&', '*', '!', '|', '>', '%', '@', '\x60'].contains c

/-- Reads the token that starts with `c`, before `after`. There is none where something begins that
is not read. -/
def next (c : Char) (after : List Char) (s : Scan) : Except Error Scan :=
  if s.place.column == 0 && isMarker '-' s.rest then s.document .documentStart
  else if s.place.column == 0 && isMarker '.' s.rest then s.document .documentEnd
  else if c == '[' then s.openFlow .openSequence
  else if c == '\x7b' then s.openFlow .openMapping
  else if c == ']' then s.closeFlow .closeSequence
  else if c == '\x7d' then s.closeFlow .closeMapping
  else if c == ',' then s.comma
  else if c == '-' && atEnd after then s.indicator .sequence .item
  else if c == '?' && (s.inFlow || atEnd after) then s.indicator .mapping .key
  else if c == ':' && (s.inFlow || atEnd after) then s.colon
  else if c == '\'' then s.single
  else if c == '"' then s.double
  else if isReserved c then .error .misplaced
  else s.plain

/-- Reads the tokens to the end of the text. Every token takes a character at least, so that
`fuel` beyond their number does not end first. -/
def tokensToEnd : Nat → Scan → Except Error (List Token)
  | 0, _ => .error .misplaced
  | fuel + 1, s => do
    let s ← s.toToken.dropStale
    let s := s.closeBlocks (s.place.column < ·)
    match s.rest with
    | [] => return (← (s.closeBlocks fun _ => true).dropKey).tokens.reverse
    | c :: after => tokensToEnd fuel (← s.next c after)

end Scan

def Token.ofText (s : String) : Except Error (List Token) := do
  let cs ← source s
  Scan.tokensToEnd (cs.length + 1) { rest := cs }

end Bindery.Yaml
