/-!
# Identifiers

The names that every generated language takes as identifiers: a letter or an
underscore, then letters, digits and underscores, all of them ASCII.
-/

namespace Bindery

/-- A character that an identifier may begin with. -/
def startsIdentifier (c : Char) : Bool :=
  ('A' ≤ c && c ≤ 'Z') || ('a' ≤ c && c ≤ 'z') || c == '_'

/-- A character that an identifier may go on with. -/
def continuesIdentifier (c : Char) : Bool :=
  startsIdentifier c || ('0' ≤ c && c ≤ '9')

def isIdentifierText : List Char → Bool
  | [] => false
  | c :: rest => startsIdentifier c && rest.all continuesIdentifier

def isIdentifier (name : String) : Bool := isIdentifierText name.toList

theorem continuesIdentifier_of_mem {cs : List Char} (h : isIdentifierText cs = true) :
    ∀ c ∈ cs, continuesIdentifier c = true := by
  cases cs with
  | nil => simp
  | cons first rest =>
    simp only [isIdentifierText, Bool.and_eq_true, List.all_eq_true] at h
    intro c hc
    rcases List.mem_cons.1 hc with rfl | hc
    · simp [continuesIdentifier, h.1]
    · exact h.2 c hc

end Bindery
