import Bindery.Distinct
import Bindery.Json.Record
import Bindery.Json.Writer

/-!
# Selections

Which algorithms of a catalog are worked on, and in which order: the included
names without the excluded ones, each at its first place.
-/

namespace Bindery

open Json (Draft Error Record)

/-- Names to work on and names to leave out. -/
structure Selection where
  included : List String := []
  excluded : List String := []
deriving Repr, DecidableEq

namespace Selection

def all (names : List String) : Selection := { included := names }

def resolve (s : Selection) : List String :=
  distinct (s.included.filter fun name => !s.excluded.contains name)

/-- The excluded names that were never included. -/
def unusedExclusions (s : Selection) : List String :=
  s.excluded.filter fun name => !s.included.contains name

def record : Record Selection where
  title := "AlgorithmSelection"
  blank := {}
  members := [
    .of "include" false Draft.texts fun x s => { s with included := x },
    .of "exclude" false Draft.texts fun x s => { s with excluded := x }]
  closed := false

def ofJson (text : String) : Except Error Selection := Json.decodeText record.decode text

theorem mem_resolve {s : Selection} {name : String} :
    name ∈ s.resolve ↔ name ∈ s.included ∧ name ∉ s.excluded := by
  simp [resolve]

theorem nodup_resolve (s : Selection) : s.resolve.Nodup := nodup_distinct _

end Selection

end Bindery
