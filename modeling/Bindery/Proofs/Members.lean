import Bindery.Proofs.ClassReading
import Bindery.Proofs.Forwarding

/-!
# Members of wrapper classes

A member of a class begins two blanks in, like an identifier. Comments, statements and the
entries of a literal do not, so that the members are found without knowing what is in
them. An algorithm without parameters has the same class as any other, less everything
that has to do with parameters.
-/

namespace Bindery.Wrapper

/-! ## Reading members -/

/-- The line begins a member: two blanks, and a character that identifiers begin with. -/
def beginsMember (line : String) : Bool :=
  match line.toList with
  | ' ' :: ' ' :: c :: _ => startsIdentifier c
  | _ => false

def withoutModifier (modifier : String) (cs : List Char) : List Char :=
  (cs.dropPrefix? modifier.toList).getD cs

/-- The word that a member is called by, after its modifiers. -/
def memberName (line : String) : String :=
  String.ofList ((withoutModifier "readonly " (withoutModifier "private "
    (line.toList.drop 2))).takeWhile continuesIdentifier)

def memberNames (lines : List String) : List String := (lines.filter beginsMember).map memberName

variable {a : Algorithm} {s : Settings} {inputs : List Input} {m : Method}

/-! ## The members of a class -/

def headLine (m : Method) : String := "  " ++ m.head ++ " \x7b"

/-- The lines of a class that begin its fields. -/
def fieldHeads (a : Algorithm) (s : Settings) : List String :=
  "  private algoInstance: any;" ::
  if a.hasParameters then
    ["  private readonly defaultParams: " ++ s.qualifiedParameterType a.name ++ " = \x7b",
      "  private params: " ++ s.qualifiedParameterType a.name ++
        " = \x7b ...this.defaultParams \x7d;"]
  else []

theorem filter_methodLines (hhead : beginsMember (headLine m) = true) :
    m.lines.filter beginsMember = [headLine m] := by
  have hcomment : ∀ l ∈ ["  /**"] ++ m.comment.map ("   * " ++ ·) ++ ["  */"],
      ¬ beginsMember l = true := by
    intro l hl
    simp only [List.mem_append, List.mem_map, List.mem_singleton] at hl
    rcases hl with (rfl | ⟨text, -, rfl⟩) | rfl
    · decide
    · simp [beginsMember, startsIdentifier]
    · decide
  have hbody : ∀ l ∈ (m.body.flatMap Statement.lines).map ("    " ++ ·),
      ¬ beginsMember l = true := by
    intro l hl
    obtain ⟨line, -, rfl⟩ := List.mem_map.1 hl
    simp [beginsMember, startsIdentifier]
  have hclose : ["  \x7d"].filter beginsMember = [] := by decide
  have hopen : (if m.comment.isEmpty then []
      else ["  /**"] ++ m.comment.map ("   * " ++ ·) ++ ["  */"]).filter beginsMember = [] := by
    split
    · rfl
    · exact List.filter_eq_nil_iff.2 hcomment
  rw [Method.lines, List.filter_append, List.filter_append, List.filter_append, hopen, hclose,
    List.filter_eq_nil_iff.2 hbody, ← headLine, List.filter_singleton, hhead]
  rfl

theorem beginsMember_headLine (hm : m ∈ methods a s inputs) :
    beginsMember (headLine m) = true := by
  simp only [methods, List.mem_append, List.mem_cons, List.not_mem_nil, or_false] at hm
  rcases hm with (rfl | rfl | rfl | rfl) | hm
  · simp [headLine, beginsMember, startsIdentifier]
  · simp [headLine, beginsMember, startsIdentifier]
  · simp [headLine, beginsMember, startsIdentifier]
  · simp [headLine, beginsMember, startsIdentifier]
  · split at hm
    · rw [List.mem_singleton.1 hm]
      simp [headLine, beginsMember, startsIdentifier]
    · cases hm

theorem filter_fieldLines :
    (fieldLines a (s.qualifiedParameterType a.name)).filter beginsMember = fieldHeads a s := by
  have hentries : (a.parameters.map fun p =>
      "    " ++ p.name ++ ": " ++ defaultLiteral p ++ ",").filter beginsMember = [] := by
    rw [List.filter_eq_nil_iff]
    intro l hl
    obtain ⟨p, -, rfl⟩ := List.mem_map.1 hl
    simp [beginsMember, startsIdentifier]
  have hdefaults : beginsMember ("  private readonly defaultParams: " ++
      s.qualifiedParameterType a.name ++ " = \x7b") = true := by
    simp [beginsMember, startsIdentifier]
  have hparams : beginsMember ("  private params: " ++ s.qualifiedParameterType a.name ++
      " = \x7b ...this.defaultParams \x7d;") = true := by
    simp [beginsMember, startsIdentifier]
  have hclose : ¬ beginsMember "  \x7d;" = true := by decide
  unfold fieldLines fieldHeads
  rw [List.filter_cons_of_pos (by decide)]
  split
  · rw [List.filter_append, List.filter_append, hentries, List.filter_cons_of_pos hdefaults,
      List.filter_cons_of_neg hclose, List.filter_cons_of_pos hparams]
    rfl
  · rfl

/-- Fields and methods are the members, and nothing else in a class looks like one. -/
theorem filter_classLines :
    (classLines a s inputs).filter beginsMember =
      fieldHeads a s ++ (methods a s inputs).map headLine := by
  have hopening : ∀ l ∈ Script.openingLines a s, ¬ beginsMember l = true := by
    intro l hl
    simp only [Script.openingLines, List.mem_cons, List.not_mem_nil, or_false] at hl
    rcases hl with rfl | rfl | rfl | rfl | rfl <;> simp [beginsMember]
  have hmethods : ((methods a s inputs).flatMap Method.lines).filter beginsMember =
      (methods a s inputs).map headLine := by
    rw [List.filter_flatMap, List.map_eq_flatMap]
    exact List.flatMap_congr fun m hm => filter_methodLines (beginsMember_headLine hm)
  rw [classLines, ← Script.openingLines, List.filter_append, List.filter_append,
    List.filter_append, List.filter_eq_nil_iff.2 hopening, filter_fieldLines, hmethods,
    List.filter_cons_of_neg (by decide), List.filter_nil, List.append_nil, List.nil_append]

/-- The members in order. Without parameters there is one field, and no method but the four. -/
theorem memberNames_classLines :
    memberNames (classLines a s inputs) =
      ["algoInstance"] ++ (if a.hasParameters then ["defaultParams", "params"] else []) ++
        ["constructor", "configure", "compute", "delete"] ++
        if a.hasParameters then ["updateParams"] else [] := by
  rw [memberNames, filter_classLines, List.map_append, List.map_map]
  cases hp : a.hasParameters with
  | true =>
      simp [fieldHeads, methods, hp, headLine, memberName, withoutModifier, List.dropPrefix?,
        continuesIdentifier, startsIdentifier]
  | false =>
      simp [fieldHeads, methods, hp, headLine, memberName, withoutModifier, List.dropPrefix?,
        continuesIdentifier, startsIdentifier]

/-! ## The arguments of constructor and configuration -/

theorem beginsMember_append {start text : String} (h : beginsMember start = true) :
    beginsMember (start ++ text) = true := by
  unfold beginsMember at h ⊢
  split at h
  · rename_i c rest hstart
    rw [String.toList_append, hstart]
    exact h
  · cases h

/-- The methods that take parameters begin like no other member. -/
theorem mem_heads {l : String} (hl : l ∈ fieldHeads a s ++ (methods a s inputs).map headLine) :
    l = "  constructor(" ++ parameterArgument a (s.qualifiedParameterType a.name) ++ ") \x7b" ∨
      l = "  configure(" ++ parameterArgument a (s.qualifiedParameterType a.name) ++ ") \x7b" ∨
      l.toList.take 6 ∈ ["  priv".toList, "  comp".toList, "  dele".toList] := by
  have hfields : ∀ l ∈ fieldHeads a s, l.toList.take 6 = "  priv".toList := by
    intro l hl
    unfold fieldHeads at hl
    split at hl
    · simp only [List.mem_cons, List.not_mem_nil, or_false] at hl
      rcases hl with rfl | rfl | rfl <;> simp
    · rw [List.mem_singleton.1 hl]
      decide
  rcases List.mem_append.1 hl with hl | hl
  · exact Or.inr (Or.inr (List.mem_cons.2 (Or.inl (hfields l hl))))
  · obtain ⟨m, hm, rfl⟩ := List.mem_map.1 hl
    simp only [methods, List.mem_append, List.mem_cons, List.not_mem_nil, or_false] at hm
    rcases hm with (rfl | rfl | rfl | rfl) | hm
    · exact Or.inl (by simp [headLine, ← String.toList_inj])
    · exact Or.inr (Or.inl (by simp [headLine, ← String.toList_inj]))
    · exact Or.inr (Or.inr (by simp [headLine]))
    · exact Or.inr (Or.inr (by simp [headLine]))
    · split at hm
      · rw [List.mem_singleton.1 hm]
        exact Or.inr (Or.inr (by simp [headLine]))
      · cases hm

/-- What stands in the first line of a member is the only text that does, where no other member
begins alike. -/
theorem carries_head {start text : String} (hstart : beginsMember start = true)
    (hmem : start ++ text ++ ") \x7b" ∈ (methods a s inputs).map headLine)
    (halone : ∀ x, start ++ x ++ ") \x7b" ∈ fieldHeads a s ++ (methods a s inputs).map headLine →
      x = text) :
    Carries (classLines a s inputs) start ") \x7b" text := by
  intro x
  constructor
  · intro h
    have hbegins : beginsMember (start ++ x ++ ") \x7b") = true :=
      beginsMember_append (beginsMember_append hstart)
    have hfilter := List.mem_filter.2 ⟨h, hbegins⟩
    rw [filter_classLines] at hfilter
    exact halone x hfilter
  · rintro rfl
    have hfilter := List.mem_append_right (fieldHeads a s) hmem
    rw [← filter_classLines] at hfilter
    exact (List.mem_filter.1 hfilter).1

theorem class_carries_constructor :
    Carries (classLines a s inputs) "  constructor(" ") \x7b"
      (parameterArgument a (s.qualifiedParameterType a.name)) := by
  refine carries_head (by decide) ?_ fun x h => ?_
  · refine List.mem_map.2 ⟨_, List.mem_append_left _ List.mem_cons_self, ?_⟩
    simp [headLine, ← String.toList_inj]
  · rcases mem_heads h with h | h | h
    · simpa using h
    · simpa using congrArg (·.toList.take 6) h
    · simp at h

theorem class_carries_configuration :
    Carries (classLines a s inputs) "  configure(" ") \x7b"
      (parameterArgument a (s.qualifiedParameterType a.name)) := by
  refine carries_head (by decide) ?_ fun x h => ?_
  · refine List.mem_map.2
      ⟨_, List.mem_append_left _ (List.mem_cons_of_mem _ List.mem_cons_self), ?_⟩
    simp [headLine, ← String.toList_inj]
  · rcases mem_heads h with h | h | h
    · simpa using congrArg (·.toList.take 6) h
    · simpa using h
    · simp at h

/-! ## The defaults -/

/-- The key of an entry of a literal. -/
def key? (line : String) : Option String :=
  match Piece.read? [.text "    ", .hole .word, .text ": ", .hole .all] line.toList with
  | some [key, _] => some key
  | _ => none

/-- The type that the defaults of a class are declared with, and the keys of their literal. -/
def defaults? (lines : List String) : Option (String × List String) := do
  let (head, body) ← block? "  private readonly defaultParams: " "  \x7d;" lines
  let type ← between? "  private readonly defaultParams: " " = \x7b" head
  let keys ← body.mapM key?
  return (type, keys)

theorem key?_entry {name literal : String} (hname : IsWord name.toList) :
    key? ("    " ++ name ++ ": " ++ literal ++ ",") = some name := by
  have hfill : ("    " ++ name ++ ": " ++ literal ++ ",").toList =
      Piece.fill [.text "    ", .hole .word, .text ": ", .hole .all] [name, literal ++ ","] := by
    simp [Piece.fill]
  have hread := Piece.read?_fill [.text "    ", .hole .word, .text ": ", .hole .all]
    [name, literal ++ ","] (by decide) ⟨hname, fun _ _ => rfl, trivial⟩
  rw [key?, hfill, hread]

/-- No line begins like the defaults where there are none. -/
theorem block?_defaults_eq_none (hp : a.hasParameters = false) :
    block? "  private readonly defaultParams: " "  \x7d;" (classLines a s inputs) = none := by
  refine block?_eq_none fun l hl hbegins => ?_
  obtain ⟨rest, hrest⟩ := hbegins
  have hmember : beginsMember l = true := by
    simp [beginsMember, ← hrest, startsIdentifier]
  have hname : memberName l = "defaultParams" := by
    rw [memberName, ← hrest]
    rfl
  have hmem : "defaultParams" ∈ memberNames (classLines a s inputs) :=
    List.mem_map.2 ⟨l, List.mem_filter.2 ⟨hl, hmember⟩, hname⟩
  simp [memberNames_classLines, hp] at hmem

theorem defaults?_classLines (hwords : ∀ p ∈ a.parameters, IsWord p.name.toList) :
    defaults? (classLines a s inputs) =
      if a.hasParameters then
        some (s.qualifiedParameterType a.name, a.parameters.map (·.name))
      else none := by
  cases hp : a.hasParameters with
  | false => rw [defaults?, block?_defaults_eq_none hp]; rfl
  | true =>
      have hkeys : (Script.entryLines a).mapM key? = some (a.parameters.map (·.name)) := by
        rw [Script.entryLines, List.mapM_map]
        exact mapM_some fun p hp => key?_entry (hwords p hp)
      have htype := between?_append "  private readonly defaultParams: "
        (s.qualifiedParameterType a.name) " = \x7b"
      simp only [defaults?, Script.block?_defaults hp, htype, hkeys, Option.bind_eq_bind,
        Option.bind_some]
      rfl

end Bindery.Wrapper
