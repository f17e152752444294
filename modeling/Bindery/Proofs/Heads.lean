import Bindery.Proofs.Forms
import Bindery.Proofs.Statements

/-!
# Heads of native functions

A class takes its parameters in four places and the inputs of a computation in two.
Each place is known by what stands before it on its line, whatever the class is called:
a class may be called `val` or `void` and its lines are still told apart.
-/

namespace Bindery.Native

variable {a : Algorithm} {s : Settings} {sig : Signature} {outputs : List Local} {l : String}

/-- The name of a class has a mark behind it, and a type has a blank. -/
theorem word_ne_void {u r r' : List Char} {c : Char} (hu : IsWord u)
    (hc : continuesIdentifier c = false) (hne : c ≠ ' ') :
    u ++ c :: r ≠ 'v' :: 'o' :: 'i' :: 'd' :: ' ' :: r' :=
  hu.append_ne ['v', 'o', 'i', 'd'] (by decide) hc (by decide) hne

theorem word_ne_val {u r r' : List Char} {c : Char} (hu : IsWord u)
    (hc : continuesIdentifier c = false) (hne : c ≠ ' ') :
    u ++ c :: r ≠ 'v' :: 'a' :: 'l' :: ' ' :: r' :=
  hu.append_ne ['v', 'a', 'l'] (by decide) hc (by decide) hne

/-! ## Declarations -/

theorem declaration_carries_constructor (ha : isIdentifier a.name = true) :
    Carries (declarationLines a sig) ("\t\t" ++ a.name ++ "(") ");"
      (argumentList sig.parameters) := by
  have hword := isWord_of_isIdentifier ha
  intro x
  simp only [declarationLines, List.mem_cons, List.not_mem_nil, or_false]
  constructor
  · intro h
    simp only [← String.toList_inj] at h
    simp at h
    rcases h with h | h | h | h | h | h
    · exact String.toList_inj.1 h
    · exact absurd h (hword.append_ne [] rfl (by decide) (by decide) (by decide))
    · exact absurd h (word_ne_void hword (by decide) (by decide))
    · exact absurd h (word_ne_val hword (by decide) (by decide))
    · exact absurd h (word_ne_void hword (by decide) (by decide))
    · exact absurd h (hword.append_ne "Algorithm".toList (by decide) (by decide) (by decide)
        (by decide))
  · intro h
    subst h
    exact .inr (.inr (.inl rfl))

theorem declaration_carries_configure (ha : isIdentifier a.name = true) :
    Carries (declarationLines a sig) "\t\tvoid configure(" ");" (argumentList sig.parameters) := by
  have hword := isWord_of_isIdentifier ha
  intro x
  simp only [declarationLines, List.mem_cons, List.not_mem_nil, or_false]
  constructor
  · intro h
    simp [← String.toList_inj, resultType] at h
    rcases h with h | h
    · exact absurd h.symm (word_ne_void hword (by decide) (by decide))
    · exact String.toList_inj.1 h
  · intro h
    subst h
    exact .inr (.inr (.inr (.inr (.inl rfl))))

theorem declaration_carries_compute (ha : isIdentifier a.name = true) :
    Carries (declarationLines a sig) "\t\tval compute(" ");" (argumentList sig.inputs) := by
  have hword := isWord_of_isIdentifier ha
  intro x
  simp only [declarationLines, List.mem_cons, List.not_mem_nil, or_false]
  constructor
  · intro h
    simp [← String.toList_inj, resultType] at h
    rcases h with h | h
    · exact absurd h.symm (word_ne_val hword (by decide) (by decide))
    · exact String.toList_inj.1 h
  · intro h
    subst h
    exact .inr (.inr (.inr (.inr (.inr (.inl rfl)))))

/-! ## Definitions -/

theorem mem_methods {m : Method} :
    m ∈ methods a s sig outputs ↔
      m = ⟨a.name ++ "::" ++ a.name ++ "(" ++ argumentList (sig.parameters.map Argument.plain) ++
        ")", [creation a]⟩ ∨
      m = ⟨a.name ++ "::~" ++ a.name ++ "()", [.destroy a.handle]⟩ ∨
      m = ⟨"void " ++ a.name ++ "::configure(" ++
        argumentList (sig.parameters.map Argument.plain) ++ ")", reconfiguration a s⟩ ∨
      m = ⟨resultType ++ " " ++ a.name ++ "::compute(" ++ argumentList sig.inputs ++ ")",
        computation a outputs⟩ ∨
      m = ⟨"void " ++ a.name ++ "::reset()", [.reset a.handle]⟩ := by
  simp [methods]

theorem exists_cons_head (ha : isIdentifier a.name = true) {m : Method}
    (hm : m ∈ methods a s sig outputs) :
    ∃ c rest, m.head.toList = c :: rest ∧ startsIdentifier c = true := by
  obtain ⟨c, rest, hname, hc⟩ := exists_cons_of_isIdentifier ha
  rcases mem_methods.1 hm with rfl | rfl | rfl | rfl | rfl
  · exact ⟨c, _, by simp [hname]; rfl, hc⟩
  · exact ⟨c, _, by simp [hname]; rfl, hc⟩
  · exact ⟨'v', _, by simp; rfl, by decide⟩
  · exact ⟨'v', _, by simp [resultType]; rfl, by decide⟩
  · exact ⟨'v', _, by simp; rfl, by decide⟩

/-- A line that begins like an identifier and opens a body is the head of a method. -/
theorem exists_head_of_mem_definitionLines {c : Char} {rest : List Char}
    (hc : startsIdentifier c = true) (hl : l.toList = c :: rest)
    (h : l ++ ") \x7b" ∈ definitionLines a s sig outputs) :
    ∃ m ∈ methods a s sig outputs, l ++ ")" = m.head := by
  have hfirst : ∀ {t : String}, l ++ ") \x7b" = t → t.toList.head? = some c := by
    intro t ht
    simp [← ht, hl]
  have hslash : c ≠ '/' := by
    intro heq
    subst heq
    exact absurd hc (by decide)
  rcases mem_definitionLines.1 h with
    hline | hline | ⟨m, hm, hline⟩ | ⟨st, -, hline⟩ | hline | hline
  · exact absurd (by simpa using (hfirst hline).symm) hslash
  · exact absurd (by simpa using (hfirst hline).symm) hslash
  · have hopen : l ++ ") \x7b" = l ++ ")" ++ " \x7b" := by simp [← String.toList_inj]
    exact ⟨m, hm, (String.append_left_inj " \x7b").1 (hopen.symm.trans hline)⟩
  · have htab : c = '\t' := by simpa using (hfirst hline).symm
    subst htab
    exact absurd hc (by decide)
  · have hbrace : c = '\x7d' := by simpa using (hfirst hline).symm
    subst hbrace
    exact absurd hc (by decide)
  · exact absurd (by simpa using (hfirst hline).symm) hslash

/-- Heads that define members of the class. -/
theorem carries_definitionLines {head text : String} {c : Char} {rest : List Char}
    (hc : startsIdentifier c = true) (hl : head.toList = c :: rest)
    (hhead : ∀ x, (∃ m ∈ methods a s sig outputs, head ++ x ++ ")" = m.head) ↔ x = text) :
    Carries (definitionLines a s sig outputs) head ") \x7b" text := by
  intro x
  rw [← hhead]
  constructor
  · intro h
    have hx : (head ++ x).toList = c :: (rest ++ x.toList) := by simp [hl]
    exact exists_head_of_mem_definitionLines hc hx h
  · intro h
    obtain ⟨m, hm, hhead⟩ := h
    refine mem_definitionLines.2 (.inr (.inr (.inl ⟨m, hm, ?_⟩)))
    simp [← String.toList_inj, ← hhead]

/-- The heads of methods differ after the name of the class at the latest. -/
theorem definition_carries_constructor (ha : isIdentifier a.name = true) :
    Carries (definitionLines a s sig outputs) (a.name ++ "::" ++ a.name ++ "(") ") \x7b"
      (argumentList (sig.parameters.map Argument.plain)) := by
  have hword := isWord_of_isIdentifier ha
  obtain ⟨c, rest, hname, hc⟩ := exists_cons_of_isIdentifier ha
  refine carries_definitionLines hc (by simp [hname]; rfl) fun x => ?_
  constructor
  · intro h
    obtain ⟨m, hm, hhead⟩ := h
    rcases mem_methods.1 hm with rfl | rfl | rfl | rfl | rfl
    all_goals simp [← String.toList_inj, resultType] at hhead
    · exact String.toList_inj.1 hhead
    · exact absurd hhead (hword.append_ne [] rfl (by decide) (by decide) (by decide))
    · exact absurd hhead (word_ne_void hword (by decide) (by decide))
    · exact absurd hhead (word_ne_val hword (by decide) (by decide))
    · exact absurd hhead (word_ne_void hword (by decide) (by decide))
  · intro h
    subst h
    exact ⟨_, mem_methods.2 (.inl rfl), rfl⟩

theorem definition_carries_configure (ha : isIdentifier a.name = true) :
    Carries (definitionLines a s sig outputs) ("void " ++ a.name ++ "::configure(") ") \x7b"
      (argumentList (sig.parameters.map Argument.plain)) := by
  have hword := isWord_of_isIdentifier ha
  refine carries_definitionLines (c := 'v') (by decide) (by simp; rfl) fun x => ?_
  constructor
  · intro h
    obtain ⟨m, hm, hhead⟩ := h
    rcases mem_methods.1 hm with rfl | rfl | rfl | rfl | rfl
    all_goals simp [← String.toList_inj, resultType] at hhead
    · exact absurd hhead.symm (word_ne_void hword (by decide) (by decide))
    · exact absurd hhead.symm (word_ne_void hword (by decide) (by decide))
    · exact String.toList_inj.1 hhead
  · intro h
    subst h
    exact ⟨_, mem_methods.2 (.inr (.inr (.inl rfl))), rfl⟩

theorem definition_carries_compute (ha : isIdentifier a.name = true) :
    Carries (definitionLines a s sig outputs) ("val " ++ a.name ++ "::compute(") ") \x7b"
      (argumentList sig.inputs) := by
  have hword := isWord_of_isIdentifier ha
  refine carries_definitionLines (c := 'v') (by decide) (by simp; rfl) fun x => ?_
  constructor
  · intro h
    obtain ⟨m, hm, hhead⟩ := h
    rcases mem_methods.1 hm with rfl | rfl | rfl | rfl | rfl
    all_goals simp [← String.toList_inj, resultType] at hhead
    · exact absurd hhead.symm (word_ne_val hword (by decide) (by decide))
    · exact absurd hhead.symm (word_ne_val hword (by decide) (by decide))
    · exact String.toList_inj.1 hhead
  · intro h
    subst h
    exact ⟨_, mem_methods.2 (.inr (.inr (.inr (.inl rfl)))), rfl⟩

/-! ## Bodies -/

/-- The lines of a definition before the method that follows the methods `done`. -/
def linesBefore (a : Algorithm) (s : Settings) (done : List Method) : List String :=
  ["// START " ++ a.name ++ " definitions", "// check " ++ s.referenceUrl a.name] ++
    done.flatMap Method.lines

/-- The lines of a definition after the method that the methods `others` follow. -/
def linesAfter (a : Algorithm) (others : List Method) : List String :=
  others.flatMap Method.lines ++ ["// END " ++ a.name ++ " definitions"]

def Method.bodyLines (m : Method) : List String := m.body.map fun st => "\t" ++ st.text

variable {done others : List Method} {m : Method}

theorem definitionLines_eq (h : methods a s sig outputs = done ++ m :: others) :
    definitionLines a s sig outputs = linesBefore a s done ++
      (m.head ++ " \x7b") :: (m.bodyLines ++ "\x7d" :: linesAfter a others) := by
  simp [definitionLines, h, linesBefore, linesAfter, Method.lines, Method.bodyLines]

theorem close_not_mem_bodyLines : "\x7d" ∉ m.bodyLines := by
  intro hmem
  obtain ⟨st, -, hline⟩ := List.mem_map.1 hmem
  have hfirst := congrArg (·.toList.head?) hline
  simp at hfirst

/-- Marks, statements and closing braces do not begin like identifiers, so that only the heads of
methods do. -/
theorem not_prefix_linesBefore {start : String} {c : Char} {cs : List Char}
    (hstart : start.toList = c :: cs) (hc : startsIdentifier c = true)
    (hdone : ∀ m ∈ done, ¬ start.toList <+: (m.head ++ " \x7b").toList) :
    ∀ l ∈ linesBefore a s done, ¬ start.toList <+: l.toList := by
  have hother : ∀ {l : String} (d : Char) (ds : List Char), l.toList = d :: ds →
      startsIdentifier d = false → ¬ start.toList <+: l.toList := by
    intro l d ds hl hd hbegins
    rw [hstart, hl, List.cons_prefix_cons] at hbegins
    rw [hbegins.1, hd] at hc
    cases hc
  intro l hl
  simp only [linesBefore, List.mem_append, List.mem_cons, List.not_mem_nil, or_false,
    List.mem_flatMap, Method.lines, List.mem_map] at hl
  rcases hl with (rfl | rfl) | ⟨m, hm, (rfl | ⟨st, -, rfl⟩) | rfl⟩
  · exact hother '/' _ (by simp; rfl) (by decide)
  · exact hother '/' _ (by simp; rfl) (by decide)
  · exact hdone m hm
  · exact hother '\t' _ (by simp; rfl) (by decide)
  · exact hother '\x7d' _ rfl (by decide)

section Body

variable {start : String} {c : Char} {cs : List Char}
  (h : methods a s sig outputs = done ++ m :: others) (hstart : start.toList = c :: cs)
  (hc : startsIdentifier c = true)
  (hdone : ∀ m ∈ done, ¬ start.toList <+: (m.head ++ " \x7b").toList)
  (hhead : start.toList <+: m.head.toList)
include h hstart hc hdone hhead

/-- The body of a method stands behind the first line that begins like its head. -/
theorem block?_method :
    block? start "\x7d" (definitionLines a s sig outputs) =
      some (m.head ++ " \x7b", m.bodyLines) := by
  rw [definitionLines_eq h]
  refine block?_eq (not_prefix_linesBefore hstart hc hdone) ?_ close_not_mem_bodyLines
  rw [String.toList_append]
  exact hhead.trans (List.prefix_append _ _)

theorem aroundBlock_method :
    aroundBlock start "\x7d" (definitionLines a s sig outputs) =
      linesBefore a s done ++ (m.head ++ " \x7b") :: "\x7d" :: linesAfter a others := by
  rw [definitionLines_eq h]
  refine aroundBlock_eq (not_prefix_linesBefore hstart hc hdone) ?_ close_not_mem_bodyLines
  rw [String.toList_append]
  exact hhead.trans (List.prefix_append _ _)

end Body

/-! ## Registrations -/

theorem registration_carries_constructor {types : List String} :
    Carries (registrationLines a types) "\t.constructor<" ">()" (", ".intercalate types) := by
  intro x
  simp only [registrationLines, List.mem_cons, List.not_mem_nil, or_false]
  constructor
  · intro h
    simp only [← String.toList_inj] at h
    simp at h
    rw [← String.toList_inj, h, String.toList_intercalate]
    rfl
  · intro h
    subst h
    exact .inr (.inl rfl)

end Bindery.Native
