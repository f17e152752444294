import Bindery.Proofs.Identifier

/-!
# Reading generated lines

What a reader of generated code sees without knowing how it was made: the items of a
list, the text between two marks of a line, and the arguments of a call.
-/

namespace Bindery

/-! ## Items of lists -/

/-- The pieces of a text between the places where `a` and `b` follow each other. -/
def splitAtPair (a b : Char) : List Char → List (List Char)
  | [] => [[]]
  | [c] => [[c]]
  | c :: d :: rest =>
    if c = a ∧ d = b then [] :: splitAtPair a b rest
    else (splitAtPair a b (d :: rest)).modifyHead (c :: ·)

/-- The items of a list that is written with a comma and a space between them. An empty text has no
item. -/
def items (list : String) : List String :=
  if list = "" then [] else (splitAtPair ',' ' ' list.toList).map String.ofList

theorem splitAtPair_of_not_mem {a b : Char} {p : List Char} (h : a ∉ p) :
    splitAtPair a b p = [p] := by
  induction p with
  | nil => rfl
  | cons c rest ih =>
      rw [List.mem_cons, not_or] at h
      cases rest with
      | nil => rfl
      | cons d rest =>
          have hc : ¬ (c = a ∧ d = b) := fun hcd => h.1 hcd.1.symm
          rw [splitAtPair, if_neg hc, ih h.2]
          rfl

/-- A piece without the first mark ends at the next pair of marks. -/
theorem splitAtPair_append {a b : Char} {p : List Char} (h : a ∉ p) (rest : List Char) :
    splitAtPair a b (p ++ a :: b :: rest) = p :: splitAtPair a b rest := by
  induction p with
  | nil => simp [splitAtPair]
  | cons c p ih =>
      rw [List.mem_cons, not_or] at h
      cases p with
      | nil =>
          have hc : ¬ (c = a ∧ a = b) := fun hcd => h.1 hcd.1.symm
          have hnil := ih (List.not_mem_nil)
          rw [List.nil_append] at hnil
          rw [List.singleton_append, splitAtPair, if_neg hc, hnil]
          rfl
      | cons d p =>
          have hc : ¬ (c = a ∧ d = b) := fun hcd => h.1 hcd.1.symm
          have hcons := ih h.2
          rw [List.cons_append] at hcons
          rw [List.cons_append, List.cons_append, splitAtPair, if_neg hc, hcons]
          rfl

theorem splitAtPair_intercalate {a b : Char} {ps : List (List Char)} (hne : ps ≠ [])
    (h : ∀ p ∈ ps, a ∉ p) : splitAtPair a b ([a, b].intercalate ps) = ps := by
  induction ps with
  | nil => exact absurd rfl hne
  | cons p ps ih =>
      rw [List.forall_mem_cons] at h
      cases ps with
      | nil => rw [List.intercalate_singleton, splitAtPair_of_not_mem h.1]
      | cons q qs =>
          have hrest := ih (List.cons_ne_nil q qs) h.2
          rw [List.intercalate_cons_cons, List.append_assoc, List.cons_append, List.cons_append,
            List.nil_append, splitAtPair_append h.1, hrest]

/-- A text that can be read back from a list: it is not empty, and no comma is in it. -/
def IsItem (text : String) : Prop := text ≠ "" ∧ ',' ∉ text.toList

theorem items_intercalate {ps : List String} (h : ∀ p ∈ ps, IsItem p) :
    items (", ".intercalate ps) = ps := by
  cases ps with
  | nil => simp [items]
  | cons p ps =>
      have hsplit : splitAtPair ',' ' ' (", ".intercalate (p :: ps)).toList =
          (p :: ps).map String.toList := by
        rw [String.toList_intercalate]
        apply splitAtPair_intercalate
        · simp
        · intro q hq
          obtain ⟨q', hq', rfl⟩ := List.mem_map.1 hq
          exact (h q' hq').2
      have hne : ", ".intercalate (p :: ps) ≠ "" := by
        intro hnil
        rw [hnil] at hsplit
        simp only [String.toList_empty, splitAtPair, List.map_cons, List.cons.injEq] at hsplit
        exact (h p List.mem_cons_self).1 (String.toList_eq_nil_iff.1 hsplit.1.symm)
      rw [items, if_neg hne, hsplit, List.map_map]
      simp

example : items "int a, float b" = ["int a", "float b"] := by decide

theorem eq_or_mem_of_mem_intercalate {α : Type} {c separator : α} {pieces : List (List α)}
    (hc : c ∈ [separator].intercalate pieces) : c = separator ∨ ∃ piece ∈ pieces, c ∈ piece := by
  induction pieces with
  | nil => simp at hc
  | cons p rest ih =>
      cases rest with
      | nil => exact .inr ⟨p, List.mem_singleton_self p, by simpa using hc⟩
      | cons q rest =>
          rw [List.intercalate_cons_cons, List.mem_append, List.mem_append,
            List.mem_singleton] at hc
          rcases hc with (hc | hc) | hc
          · exact .inr ⟨p, List.mem_cons_self, hc⟩
          · exact .inl hc
          · exact (ih hc).imp id fun ⟨piece, hpiece, hmem⟩ =>
              ⟨piece, List.mem_cons_of_mem _ hpiece, hmem⟩

theorem not_mem_intercalate {c : Char} {separator : String} {texts : List String}
    (hseparator : c ∉ separator.toList) (htexts : ∀ t ∈ texts, c ∉ t.toList) :
    c ∉ (separator.intercalate texts).toList := by
  induction texts with
  | nil => simp
  | cons t rest ih =>
      rw [List.forall_mem_cons] at htexts
      cases rest with
      | nil => simpa using htexts.1
      | cons u rest =>
          have hrest := ih htexts.2
          rw [String.intercalate_cons_cons, String.toList_append, String.toList_append,
            List.mem_append, List.mem_append, not_or, not_or]
          exact ⟨⟨htexts.1, hseparator⟩, hrest⟩

/-! ## Marks and calls -/

/-- Between `head` and `tail` the lines have `text`, and nothing else anywhere. -/
def Carries (lines : List String) (head tail text : String) : Prop :=
  ∀ x, head ++ x ++ tail ∈ lines ↔ x = text

/-- A line ends in a call of `callee` with these arguments. -/
def Calls (lines : List String) (callee arguments : String) : Prop :=
  ∃ before, before ++ callee ++ "(" ++ arguments ++ ");" ∈ lines

theorem append_close (l : String) : l ++ ");" = l ++ ")" ++ ";" := by
  simp [← String.toList_inj]

/-- The first mark of a text is found at its own place, and every other one after it. -/
theorem eq_or_of_first_mark {m : Char} {u v x y : List Char} (hu : m ∉ u)
    (h : x ++ m :: y = u ++ m :: v) :
    (x = u ∧ y = v) ∨ ∃ z, x = u ++ m :: z ∧ z ++ m :: y = v := by
  induction u generalizing x with
  | nil =>
      cases x with
      | nil => exact .inl ⟨rfl, (List.cons.inj h).2⟩
      | cons c x =>
          obtain ⟨rfl, htail⟩ := List.cons.inj h
          exact .inr ⟨x, rfl, htail⟩
  | cons c u ih =>
      rw [List.mem_cons, not_or] at hu
      cases x with
      | nil => exact absurd (List.cons.inj h).1 hu.1
      | cons d x =>
          obtain ⟨rfl, htail⟩ := List.cons.inj h
          rcases ih hu.2 htail with ⟨rfl, rfl⟩ | ⟨z, rfl, hz⟩
          · exact .inl ⟨rfl, rfl⟩
          · exact .inr ⟨z, rfl, hz⟩

/-- A mark that a text has once is found at one place. -/
theorem eq_of_one_mark {m : Char} {u v x y : List Char} (hu : m ∉ u) (hv : m ∉ v)
    (h : x ++ m :: y = u ++ m :: v) : x = u ∧ y = v := by
  rcases eq_or_of_first_mark hu h with heq | ⟨z, -, rfl⟩
  · exact heq
  · exact absurd (List.mem_append_right z List.mem_cons_self) hv

end Bindery
