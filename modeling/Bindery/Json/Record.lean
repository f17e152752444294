import Bindery.Json.Error
import Bindery.Json.Reader
import Bindery.Record

/-!
# Decoding drafts

Strings, lists, and records. A record is an object of its members in any order,
or an array of them in the order of their declaration, from which members with a
default may be missing at the end. Faults are met in the order of the text: a
member that is missing is missed where its object ends.
-/

namespace Bindery.Json

def Draft.text : Draft → Except Error String
  | .string s => .ok s
  | d => .error (d.wrongKind "a string")

/-- The elements of an array, each decoded by `element`. -/
def Items.list {α : Type} (element : Draft → Except Error α) : Items → Except Error (List α)
  | .close => .ok []
  | .broken b => .error (.broken b)
  | .item v rest => do
    let a ← element v
    let as ← rest.list element
    return a :: as

/-- An array, each element of which is decoded by `element`. -/
def Draft.list {α : Type} (element : Draft → Except Error α) : Draft → Except Error (List α)
  | .array items => items.list element
  | d => .error (d.wrongKind "a sequence")

def Draft.texts : Draft → Except Error (List String) := Draft.list Draft.text

/-- How records `α` are written. -/
structure Record (α : Type) where
  /-- The name that messages use. -/
  title : String
  /-- The record before any member is read. -/
  blank : α
  members : List (Member Draft Error α)
  /-- Members of other names are refused, and not skipped. -/
  closed : Bool

namespace Record

variable {α : Type} (r : Record α)

/-- Decodes the members of an object into a record; `seen` are the names read before. -/
def fromMembers (seen : List String) (record : α) : Members → Except Error α
  | .close =>
    match firstMissing? r.members seen with
    | some m => .error (.data (.missingMember m.name))
    | none => .ok record
  | .broken b => .error (.broken b)
  | .stray none => .error (.broken .truncated)
  | .stray (some _) => .error (.broken .malformed)
  | .member (.error flaw) _ _ => .error (.broken flaw.kept)
  | .member (.ok name) v rest =>
    match memberNamed? r.members name with
    | none =>
      if r.closed then .error (.data (.unknownMember name (r.members.map (·.name))))
      else
        match v.skip with
        | .error b => .error (.broken b)
        | .ok () => fromMembers seen record rest
    | some m =>
      if seen.contains name then .error (.data (.duplicateMember name))
      else
        match m.put v record with
        | .error e => .error e
        | .ok record => fromMembers (name :: seen) record rest

/-- Decodes the elements of an array into a record; `members` are those that come next, `count`
those that were read before. -/
def fromItems (record : α) : Nat → List (Member Draft Error α) → Items → Except Error α
  | _, [], .close => .ok record
  | _, [], .broken b => .error (.broken b)
  | _, [], .item _ _ => .error (.broken .malformed)
  | count, members, .close =>
    match members.findIdx? (·.required) with
    | some i => .error (.data (.tooShort (count + i) r.title r.members.length))
    | none => .ok record
  | _, _ :: _, .broken b => .error (.broken b)
  | count, m :: members, .item v rest =>
    match m.put v record with
    | .error e => .error e
    | .ok record => fromItems record (count + 1) members rest

def decode : Draft → Except Error α
  | .object members => r.fromMembers [] r.blank members
  | .array items => r.fromItems r.blank 0 r.members items
  | d => .error (d.wrongKind ("struct " ++ r.title))

end Record

/-- Decodes a whole text: its value, after which nothing visible may follow. -/
def decodeText {α : Type} (decode : Draft → Except Error α) (s : String) : Except Error α := do
  let doc := Document.ofText s
  let a ← decode doc.root
  if doc.trailing then .error (.broken .malformed) else .ok a

end Bindery.Json
