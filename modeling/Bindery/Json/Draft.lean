import Bindery.Json.Value

/-!
# Drafts of JSON values

A draft is what reading a text from left to right finds: a value, cut short where
the text stops being JSON. Who reads a draft in the same order meets the faults
of the text and the faults of the value in the order in which they stand there.

A value can be kept or skipped. Skipping asks less: it takes an escape that
denotes half a character, a number beyond the floating-point range, and any
nesting.
-/

namespace Bindery.Json

/-- How a text stops being JSON. -/
inductive Break where
  /-- The text ends too early. -/
  | truncated
  /-- Something stands where it cannot. -/
  | malformed
deriving Repr, DecidableEq

/-- What is wrong with a written value: for keeping it, and for skipping it if that fails too. -/
structure Flaw where
  kept : Break
  skipped : Option Break
deriving Repr, DecidableEq

/-- The text breaks in the same way for keeping and for skipping. -/
def Break.flaw (b : Break) : Flaw := ⟨b, some b⟩

mutual

/-- A value as far as the text has it. -/
inductive Draft where
  | null
  | bool (b : Bool)
  | number (n : Number)
  | string (s : String)
  | flawed (flaw : Flaw)
  | array (items : Items)
  | object (members : Members)

/-- The elements of an array, and how it ends. -/
inductive Items where
  | close
  | broken (b : Break)
  | item (v : Draft) (rest : Items)

/-- The members of an object, and how it ends. -/
inductive Members where
  | close
  | broken (b : Break)
  /-- No name stands where one should; `found` is what stands there, if anything does. -/
  | stray (found : Option Draft)
  | member (key : Except Flaw String) (v : Draft) (rest : Members)

end

def Flaw.skip (flaw : Flaw) : Except Break Unit :=
  match flaw.skipped with
  | some b => .error b
  | none => .ok ()

mutual

def Draft.skip : Draft → Except Break Unit
  | .flawed flaw => flaw.skip
  | .array items => items.skip
  | .object members => members.skip
  | _ => .ok ()

def Items.skip : Items → Except Break Unit
  | .close => .ok ()
  | .broken b => .error b
  | .item v rest => do v.skip; rest.skip

def Members.skip : Members → Except Break Unit
  | .close => .ok ()
  | .broken b => .error b
  | .stray none => .error .truncated
  | .stray (some _) => .error .malformed
  | .member (.ok _) v rest => do v.skip; rest.skip
  | .member (.error flaw) v rest => do flaw.skip; v.skip; rest.skip

end

mutual

/-- The value of a draft, inside which at most `room` containers may lie in one another. The
members of an object come in the order of their names, the last of a name counting. -/
def Draft.keep (room : Nat) : Draft → Except Break Value
  | .null => .ok .null
  | .bool b => .ok (.bool b)
  | .number n => .ok (.number n)
  | .string s => .ok (.string s)
  | .flawed flaw => .error flaw.kept
  | .array items =>
    match room with
    | 0 => .error .malformed
    | room + 1 => (items.keep room).map .array
  | .object members =>
    match room with
    | 0 => .error .malformed
    | room + 1 => (members.keep room []).map .object

def Items.keep (room : Nat) : Items → Except Break (List Value)
  | .close => .ok []
  | .broken b => .error b
  | .item v rest => do
    let w ← v.keep room
    let ws ← rest.keep room
    return w :: ws

/-- The members of an object, put into those read before. -/
def Members.keep (room : Nat) :
    Members → List (String × Value) → Except Break (List (String × Value))
  | .close, read => .ok read
  | .broken b, _ => .error b
  | .stray none, _ => .error .truncated
  | .stray (some _), _ => .error .malformed
  | .member (.error flaw) _ _, _ => .error flaw.kept
  | .member (.ok name) v rest, read => do
    let w ← v.keep room
    rest.keep room (Value.insertMember name w read)

end

mutual

def Value.draft : Value → Draft
  | .null => .null
  | .bool b => .bool b
  | .number n => .number n
  | .string s => .string s
  | .array items => .array (Value.draftItems items)
  | .object members => .object (Value.draftMembers members)

def Value.draftItems : List Value → Items
  | [] => .close
  | v :: rest => .item v.draft (Value.draftItems rest)

def Value.draftMembers : List (String × Value) → Members
  | [] => .close
  | (name, v) :: rest => .member (.ok name) v.draft (Value.draftMembers rest)

end

end Bindery.Json
