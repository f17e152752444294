import Bindery.Yaml.Token

/-!
# YAML nodes

Tokens as trees of scalars, sequences and mappings. Where a collection leaves a
place empty, an empty plain scalar stands. Each function takes the tokens from
where a part should stand and gives back what follows it; `fuel` bounds the calls
and is set beyond what the tokens can take.
-/

namespace Bindery.Yaml

/-- A value of a document. -/
inductive Node where
  | scalar (text : String) (plain : Bool)
  | sequence (items : List Node)
  | mapping (members : List (Node × Node))
deriving Repr

def Node.empty : Node := .scalar "" true

/-- What a place takes. -/
inductive Room where
  /-- Collections in lines of their own. -/
  | block
  /-- The same, and sequences that are not indented. -/
  | member
  /-- Collections in brackets only. -/
  | flow
deriving Repr, DecidableEq

/-- A block sequence goes on, or ends, without a value here. -/
def endsItem : Token → Bool
  | .item | .dedent => true
  | _ => false

/-- A sequence that is not indented goes on, or ends, without a value here. -/
def endsBareItem : Token → Bool
  | .item | .key | .value | .dedent => true
  | _ => false

/-- A block mapping goes on, or ends, without a node here. -/
def endsMember : Token → Bool
  | .key | .value | .dedent => true
  | _ => false

def endsPairKey : Token → Bool
  | .value | .comma | .closeSequence => true
  | _ => false

/-- A pair of a flow sequence has no value here. -/
def endsPairValue : Token → Bool
  | .comma | .closeSequence => true
  | _ => false

/-- A member of a flow mapping has no key here. -/
def endsFlowKey : Token → Bool
  | .value | .comma | .closeMapping => true
  | _ => false

/-- A member of a flow mapping has no value here. -/
def endsFlowValue : Token → Bool
  | .comma | .closeMapping => true
  | _ => false

mutual

def readNode : Nat → Room → List Token → Except Error (Node × List Token)
  | fuel + 1, room, t :: rest =>
    match t with
    | .scalar text plain => .ok (.scalar text plain, rest)
    | .openSequence => do
      let (items, rest) ← readFlowItems fuel true rest
      return (.sequence items, rest)
    | .openMapping => do
      let (members, rest) ← readFlowMembers fuel true rest
      return (.mapping members, rest)
    | .sequence =>
      if room = .flow then .error .misplaced
      else do
        let (items, rest) ← readItems fuel rest
        return (.sequence items, rest)
    | .mapping =>
      if room = .flow then .error .misplaced
      else do
        let (members, rest) ← readMembers fuel rest
        return (.mapping members, rest)
    | .item =>
      if room = .member then do
        let (items, rest) ← readBareItems fuel (t :: rest)
        return (.sequence items, rest)
      else .error .misplaced
    | _ => .error .misplaced
  | _, _, _ => .error .misplaced

/-- A node, or nothing where a token stands that `ends` tells. -/
def readOptional : Nat → Room → (Token → Bool) → List Token → Except Error (Node × List Token)
  | fuel + 1, room, ends, t :: rest =>
    if ends t then .ok (.empty, t :: rest) else readNode fuel room (t :: rest)
  | _, _, _, _ => .error .misplaced

def readItems : Nat → List Token → Except Error (List Node × List Token)
  | fuel + 1, .item :: rest => do
    let (v, rest) ← readOptional fuel .block endsItem rest
    let (vs, rest) ← readItems fuel rest
    return (v :: vs, rest)
  | _ + 1, .dedent :: rest => .ok ([], rest)
  | _, _ => .error .misplaced

/-- The items of a sequence that is not indented. -/
def readBareItems : Nat → List Token → Except Error (List Node × List Token)
  | fuel + 1, .item :: rest => do
    let (v, rest) ← readOptional fuel .block endsBareItem rest
    let (vs, rest) ← readBareItems fuel rest
    return (v :: vs, rest)
  | _ + 1, rest => .ok ([], rest)
  | 0, _ => .error .misplaced

def readMembers : Nat → List Token → Except Error (List (Node × Node) × List Token)
  | fuel + 1, .key :: rest => do
    let (k, rest) ← readOptional fuel .member endsMember rest
    let (v, rest) ← readMemberValue fuel rest
    let (ms, rest) ← readMembers fuel rest
    return ((k, v) :: ms, rest)
  | _ + 1, .dedent :: rest => .ok ([], rest)
  | _, _ => .error .misplaced

def readMemberValue : Nat → List Token → Except Error (Node × List Token)
  | fuel + 1, .value :: rest => readOptional fuel .member endsMember rest
  | _ + 1, rest => .ok (.empty, rest)
  | 0, _ => .error .misplaced

/-- The items of a flow sequence, before which a comma has to stand unless they are the first. -/
def readFlowItems : Nat → Bool → List Token → Except Error (List Node × List Token)
  | _ + 1, _, .closeSequence :: rest => .ok ([], rest)
  | fuel + 1, false, .comma :: rest =>
    match rest with
    | .closeSequence :: rest => .ok ([], rest)
    | _ => readFlowItem fuel rest
  | fuel + 1, true, rest => readFlowItem fuel rest
  | _, _, _ => .error .misplaced

/-- An item of a flow sequence, which may be a pair, and those after it. -/
def readFlowItem : Nat → List Token → Except Error (List Node × List Token)
  | fuel + 1, .key :: rest => do
    let (k, rest) ← readOptional fuel .flow endsPairKey rest
    let (v, rest) ← readFlowValue fuel endsPairValue rest
    let (vs, rest) ← readFlowItems fuel false rest
    return (.mapping [(k, v)] :: vs, rest)
  | fuel + 1, rest => do
    let (v, rest) ← readNode fuel .flow rest
    let (vs, rest) ← readFlowItems fuel false rest
    return (v :: vs, rest)
  | 0, _ => .error .misplaced

/-- The members of a flow mapping, before which a comma has to stand unless they are the first. -/
def readFlowMembers :
    Nat → Bool → List Token → Except Error (List (Node × Node) × List Token)
  | _ + 1, _, .closeMapping :: rest => .ok ([], rest)
  | fuel + 1, false, .comma :: rest =>
    match rest with
    | .closeMapping :: rest => .ok ([], rest)
    | _ => readFlowMember fuel rest
  | fuel + 1, true, rest => readFlowMember fuel rest
  | _, _, _ => .error .misplaced

/-- A member of a flow mapping and those after it. A node without the mark of a key is a key
without a value. -/
def readFlowMember : Nat → List Token → Except Error (List (Node × Node) × List Token)
  | fuel + 1, .key :: rest => do
    let (k, rest) ← readOptional fuel .flow endsFlowKey rest
    let (v, rest) ← readFlowValue fuel endsFlowValue rest
    let (ms, rest) ← readFlowMembers fuel false rest
    return ((k, v) :: ms, rest)
  | fuel + 1, rest => do
    let (k, rest) ← readNode fuel .flow rest
    let (ms, rest) ← readFlowMembers fuel false rest
    return ((k, .empty) :: ms, rest)
  | 0, _ => .error .misplaced

/-- The value after a key of a flow collection. -/
def readFlowValue : Nat → (Token → Bool) → List Token → Except Error (Node × List Token)
  | fuel + 1, ends, .value :: rest => readOptional fuel .flow ends rest
  | _ + 1, _, rest => .ok (.empty, rest)
  | 0, _, _ => .error .misplaced

end

/-- A document after its first mark, if it has one. -/
def readDocument (fuel : Nat) : List Token → Except Error (Node × List Token)
  | [] => .ok (.empty, [])
  | .documentStart :: rest =>
    match rest with
    | [] => .ok (.empty, [])
    | .documentStart :: _ => .ok (.empty, rest)
    | .documentEnd :: _ => .ok (.empty, rest)
    | _ => readNode fuel .block rest
  | rest => readNode fuel .block rest

def Node.ofTokens (ts : List Token) : Except Error Node := do
  let (node, rest) ← readDocument (3 * ts.length + 3) ts
  if (rest.dropWhile (· == .documentEnd)).isEmpty then return node
  else throw .severalDocuments

def Node.ofText (s : String) : Except Error Node := do
  Node.ofTokens (← Token.ofText s)

end Bindery.Yaml
