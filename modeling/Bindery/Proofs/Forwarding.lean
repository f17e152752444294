import Bindery.Proofs.Lines
import Bindery.Proofs.Reading

/-!
# What wrappers hand on

A wrapper class calls its instance in three places. Defaults and descriptions may be
any text, but a line that is indented like a statement and ends like one is one.
-/

namespace Bindery.Wrapper

variable {a : Algorithm} {s : Settings} {inputs : List Input} {l : String}

/-- The statements of all methods in order. -/
def statements (a : Algorithm) (s : Settings) (inputs : List Input) : List Statement :=
  (methods a s inputs).flatMap (·.body)

theorem mem_statements {st : Statement} :
    st ∈ statements a s inputs ↔
      st ∈ updating a ∨ st = .create s.backend a.name (parameterNames a) ∨
        st = .configure (parameterNames a) ∨ st = .compute (inputs.map (·.name)) ∨
        st = .delete ∨ (a.hasParameters = true ∧ st ∈ merging (coercedNames a)) := by
  simp only [statements, methods]
  split <;> simp_all <;> grind

theorem statement_mem_classLines {st : Statement} (hst : st ∈ statements a s inputs)
    (hl : l ∈ st.lines) : "    " ++ l ∈ classLines a s inputs := by
  obtain ⟨m, hm, hbody⟩ := List.mem_flatMap.1 hst
  have hmethod : "    " ++ l ∈ m.lines := by
    unfold Method.lines
    refine List.mem_append_left _ (List.mem_append_right _ (List.mem_map_of_mem ?_))
    exact List.mem_flatMap.2 ⟨st, hbody, hl⟩
  exact List.mem_append_left _ (List.mem_append_right _ (List.mem_flatMap.2 ⟨m, hm, hmethod⟩))

/-- A line four blanks in that ends in a semicolon is a statement's. -/
theorem exists_statement_of_mem_classLines (h : "    " ++ l ++ ";" ∈ classLines a s inputs) :
    ∃ st ∈ statements a s inputs, l ++ ";" ∈ st.lines := by
  have hfirst : ∀ {t : String}, "    " ++ l ++ ";" = t → t.toList.take 4 = "    ".toList := by
    intro t ht
    simp [← ht]
  have hlast : ∀ {t : String}, "    " ++ l ++ ";" = t → t.toList.reverse.head? = some ';' := by
    intro t ht
    simp [← ht]
  -- Comments and fields stand two or three blanks in, and a default has a comma behind it.
  simp only [classLines, List.mem_append, List.mem_cons, List.not_mem_nil, or_false] at h
  rcases h with (((hl | hl | hl | hl | hl) | hfield) | hmethod) | hl
  · simpa using hlast hl
  · simpa using hlast hl
  · simpa using hlast hl
  · simpa using hlast hl
  · simpa using hlast hl
  · unfold fieldLines at hfield
    rcases List.mem_cons.1 hfield with hl | hfield
    · simpa using hfirst hl
    · split at hfield
      · simp only [List.mem_append, List.mem_cons, List.mem_map, List.not_mem_nil,
          or_false] at hfield
        rcases hfield with (hl | ⟨p, -, hl⟩) | hl | hl
        · simpa using hlast hl
        · simpa using hlast hl.symm
        · simpa using hfirst hl
        · simpa using hfirst hl
      · cases hfield
  · obtain ⟨m, hm, hline⟩ := List.mem_flatMap.1 hmethod
    simp only [Method.lines, List.mem_append, List.mem_cons, List.mem_map, List.not_mem_nil,
      or_false] at hline
    rcases hline with ((hcomment | hl) | ⟨line, hline, hl⟩) | hl
    · split at hcomment
      · cases hcomment
      · simp only [List.mem_append, List.mem_cons, List.mem_map, List.not_mem_nil,
          or_false] at hcomment
        rcases hcomment with (hl | ⟨c, -, hl⟩) | hl
        · simpa using hlast hl
        · simpa using hfirst hl.symm
        · simpa using hlast hl
    · simpa using hlast hl
    · obtain ⟨st, hst, hmem⟩ := List.mem_flatMap.1 hline
      rw [String.append_assoc, String.append_right_inj] at hl
      exact ⟨st, List.mem_flatMap.2 ⟨m, hm, hst⟩, hl ▸ hmem⟩
    · simpa using hlast hl
  · simpa using hlast hl

/-- The lines that call the instance or make it. -/
def callLines (a : Algorithm) (s : Settings) (inputs : List Input) : List String :=
  ["this.algoInstance = new " ++ s.backend ++ "." ++ a.name ++ "(" ++
      forwarded (parameterNames a) ++ ");",
    "this.algoInstance.configure(" ++ forwarded (parameterNames a) ++ ");",
    "return this.algoInstance.compute(" ++ ", ".intercalate (inputs.map (·.name)) ++ ");",
    "this.algoInstance.delete();"]

/-- No other line begins like one of them. -/
theorem mem_callLines_or {st : Statement} (hst : st ∈ statements a s inputs) (hl : l ∈ st.lines) :
    l ∈ callLines a s inputs ∨
      (l.toList.take 6 ≠ "this.a".toList ∧ l.toList.take 6 ≠ "return".toList) := by
  rcases mem_statements.1 hst with hup | rfl | rfl | rfl | rfl | ⟨-, hm⟩
  · unfold updating at hup
    split at hup
    · rw [List.mem_singleton] at hup
      subst hup
      rw [List.mem_singleton.1 hl]
      exact .inr (by decide)
    · cases hup
  · rw [List.mem_singleton.1 hl]
    exact .inl (by simp [callLines])
  · rw [List.mem_singleton.1 hl]
    exact .inl (by simp [callLines])
  · rw [List.mem_singleton.1 hl]
    exact .inl (by simp [callLines])
  · rw [List.mem_singleton.1 hl]
    exact .inl (by simp [callLines])
  · right
    unfold merging at hm
    split at hm
    · rw [List.mem_singleton] at hm
      subst hm
      rw [List.mem_singleton.1 hl]
      decide
    · simp only [List.mem_append, List.mem_cons, List.mem_map, List.not_mem_nil, or_false] at hm
      rcases hm with (rfl | ⟨name, -, rfl⟩) | rfl
      · rw [List.mem_singleton.1 hl]
        decide
      · simp only [Statement.lines, List.mem_cons, List.not_mem_nil, or_false] at hl
        rcases hl with rfl | rfl | rfl
        · simp
        · simp
        · decide
      · rw [List.mem_singleton.1 hl]
        decide

/-- A place is where the one call with this beginning has it. -/
theorem carries_classLines {indented head text : String} {st : Statement}
    (hindented : indented = "    " ++ head) (hst : st ∈ statements a s inputs)
    (hl : head ++ text ++ ");" ∈ st.lines)
    (hbegin : ∀ x, (head ++ x ++ ");").toList.take 6 = "this.a".toList ∨
      (head ++ x ++ ");").toList.take 6 = "return".toList)
    (hcall : ∀ x, head ++ x ++ ");" ∈ callLines a s inputs → x = text) :
    Carries (classLines a s inputs) indented ");" text := by
  subst hindented
  intro x
  constructor
  · intro h
    have hline : "    " ++ head ++ x ++ ");" = "    " ++ (head ++ x ++ ")") ++ ";" := by
      simp [← String.toList_inj]
    rw [hline] at h
    obtain ⟨st', hst', hl'⟩ := exists_statement_of_mem_classLines h
    rw [← append_close] at hl'
    rcases mem_callLines_or hst' hl' with hmem | ⟨hthis, hreturn⟩
    · exact hcall x hmem
    · rcases hbegin x with hx | hx
      · exact absurd hx hthis
      · exact absurd hx hreturn
  · intro h
    subst h
    have hline := statement_mem_classLines hst hl
    simpa only [String.append_assoc] using hline

theorem class_carries_create :
    Carries (classLines a s inputs)
      ("    this.algoInstance = new " ++ s.backend ++ "." ++ a.name ++ "(") ");"
      (forwarded (parameterNames a)) := by
  have hhead : "    this.algoInstance = new " ++ s.backend ++ "." ++ a.name ++ "(" =
      "    " ++ ("this.algoInstance = new " ++ s.backend ++ "." ++ a.name ++ "(") := by
    simp [← String.toList_inj]
  refine carries_classLines hhead (mem_statements.2 (.inr (.inl rfl))) (List.mem_singleton_self _)
    (fun x => .inl (by simp)) fun x h => ?_
  simp [callLines, ← String.toList_inj] at h
  exact String.toList_inj.1 h

theorem class_carries_configure :
    Carries (classLines a s inputs) "    this.algoInstance.configure(" ");"
      (forwarded (parameterNames a)) := by
  have hhead : "    this.algoInstance.configure(" = "    " ++ "this.algoInstance.configure(" := by
    simp
  refine carries_classLines hhead (mem_statements.2 (.inr (.inr (.inl rfl))))
    (List.mem_singleton_self _) (fun x => .inl (by simp)) fun x h => ?_
  simp [callLines, ← String.toList_inj] at h
  exact String.toList_inj.1 h

theorem class_carries_compute :
    Carries (classLines a s inputs) "    return this.algoInstance.compute(" ");"
      (", ".intercalate (inputs.map (·.name))) := by
  have hhead : "    return this.algoInstance.compute(" =
      "    " ++ "return this.algoInstance.compute(" := by
    simp
  refine carries_classLines hhead (mem_statements.2 (.inr (.inr (.inr (.inl rfl)))))
    (List.mem_singleton_self _) (fun x => .inr (by simp)) fun x h => ?_
  simp [callLines, ← String.toList_inj] at h
  rw [← String.toList_inj, h, String.toList_intercalate, List.map_map]
  rfl

end Bindery.Wrapper
