/-!
# Records and their members

A record is read member by member. Each member has a name and says how a source
value goes into the record under construction, which starts from a blank one that
holds the defaults.
-/

namespace Bindery

/-- A member of records `α`, read from source values `δ` with errors `ε`. -/
structure Member (δ ε α : Type) where
  name : String
  /-- Every source has to give this member. -/
  required : Bool
  /-- Puts the member's source value into a record. -/
  put : δ → α → Except ε α

/-- The member that `set` writes and `decode` reads. -/
def Member.of {δ ε α β : Type} (name : String) (required : Bool) (decode : δ → Except ε β)
    (set : β → α → α) : Member δ ε α :=
  ⟨name, required, fun source record => (decode source).map (set · record)⟩

def memberNamed? {δ ε α : Type} (members : List (Member δ ε α)) (name : String) :
    Option (Member δ ε α) :=
  members.find? (·.name == name)

/-- The first required member that has not been seen. -/
def firstMissing? {δ ε α : Type} (members : List (Member δ ε α)) (seen : List String) :
    Option (Member δ ε α) :=
  members.find? fun m => m.required && !seen.contains m.name

theorem memberNamed?_name {δ ε α : Type} {members : List (Member δ ε α)} {name : String}
    {m : Member δ ε α} (h : memberNamed? members name = some m) : m.name = name := by
  simpa using List.find?_some h

end Bindery
