import Bindery.Proofs.Defaults
import Bindery.Proofs.Members

/-!
# Texts between quotes

A text between single quotes stands in the middle of a line: behind a default there is a
comma, and behind the description of an output the next output. A reader who takes the
character after a backslash as it is, and stops at the first quote that is not taken so,
stops at the right one. Whatever stands behind the literal is left to read, so that
several literals in one line do not disturb each other.
-/

namespace Bindery.Script

open Wrapper (defaultLiteral escapedText resultComment singleQuoted)

/-! ## Escapes -/

/-- Every occurrence of a character with a text put in its place. -/
def replaced (c : Char) (text : List Char) (cs : List Char) : List Char :=
  cs.flatMap fun d => if d = c then text else [d]

/-- Backslashes are escaped before quotes are. The other way round, the backslashes that
escape the quotes would be escaped themselves. -/
theorem escapedText_eq_replaced (cs : List Char) :
    escapedText cs = replaced '\'' ['\\', '\''] (replaced '\\' ['\\', '\\'] cs) := by
  induction cs with
  | nil => rfl
  | cons c cs ih =>
      unfold replaced at ih ⊢
      rw [escapedText, ih, List.flatMap_cons, List.flatMap_append]
      by_cases hbackslash : c = '\\'
      · subst hbackslash
        rfl
      · by_cases hquote : c = '\''
        · subst hquote
          rfl
        · simp [hbackslash, hquote]

example : replaced '\\' ['\\', '\\'] (replaced '\'' ['\\', '\''] ['\'']) ≠ escapedText ['\''] := by
  decide

/-! ## Literals -/

/-- What the literal denotes whose opening quote has been read, and what stands behind its
closing quote. A backslash takes the character after it as it is. -/
def quoted? : List Char → Option (List Char × List Char)
  | [] => none
  | c :: rest =>
    if c = '\'' then some ([], rest)
    else if c = '\\' then
      match rest with
      | [] => none
      | d :: rest => (quoted? rest).map (Prod.map (d :: ·) id)
    else (quoted? rest).map (Prod.map (c :: ·) id)

/-- The text of the literal that a line goes on with, and what stands behind it. -/
def quotation? : List Char → Option (String × List Char)
  | '\'' :: rest => (quoted? rest).map (Prod.map String.ofList id)
  | _ => none

theorem quoted?_quote (rest : List Char) : quoted? ('\'' :: rest) = some ([], rest) := by
  cases rest <;> simp [quoted?]

theorem quoted?_cons {c : Char} (hquote : c ≠ '\'') (hbackslash : c ≠ '\\') (rest : List Char) :
    quoted? (c :: rest) = (quoted? rest).map (Prod.map (c :: ·) id) := by
  cases rest with
  | nil => simp [quoted?, hquote, hbackslash]
  | cons d rest => simp [quoted?, hquote, hbackslash]

theorem quoted?_escapedText (cs rest : List Char) :
    quoted? (escapedText cs ++ '\'' :: rest) = some (cs, rest) := by
  induction cs with
  | nil => exact quoted?_quote rest
  | cons c cs ih =>
      rw [escapedText]
      split
      · simp [quoted?, ih]
      · rename_i hc
        rw [not_or] at hc
        rw [List.cons_append, quoted?_cons hc.2 hc.1, ih]
        rfl

/-- A reader takes all of a literal and nothing of what stands behind it. -/
theorem quotation?_append (s : String) (rest : List Char) :
    quotation? ((singleQuoted s).toList ++ rest) = some (s, rest) := by
  have hquoted : (singleQuoted s).toList ++ rest =
      '\'' :: (escapedText s.toList ++ '\'' :: rest) := by
    simp [singleQuoted, Wrapper.escaped]
  rw [hquoted, quotation?, quoted?_escapedText]
  simp

/-- Different texts have different literals, since each is read back from its own. -/
theorem singleQuoted_inj {s t : String} : singleQuoted s = singleQuoted t ↔ s = t := by
  constructor
  · intro h
    have hs := quotation?_append s []
    rw [h, quotation?_append t []] at hs
    exact (Prod.mk.inj (Option.some.inj hs)).1.symm
  · intro h
    rw [h]

theorem length_of_quoted? {cs text behind : List Char} (h : quoted? cs = some (text, behind)) :
    behind.length < cs.length := by
  -- what is read before goes on in front of the text and leaves the rest alone
  have hmap : ∀ {c : Char} {rest text : List Char},
      (quoted? rest).map (Prod.map (c :: ·) id) = some (text, behind) →
        ∃ inner, quoted? rest = some (inner, behind) := by
    intro c rest text h
    obtain ⟨⟨inner, left⟩, hread, heq⟩ := Option.map_eq_some_iff.1 h
    exact ⟨inner, (Prod.mk.inj heq).2 ▸ hread⟩
  fun_induction quoted? cs generalizing text with
  | case1 => cases h
  | case2 rest =>
      cases h
      exact Nat.lt_succ_self _
  | case3 => cases h
  | case4 _ d rest ih =>
      obtain ⟨inner, hread⟩ := hmap h
      have hrest := ih hread
      simp only [List.length_cons]
      omega
  | case5 c rest _ _ ih =>
      obtain ⟨inner, hread⟩ := hmap h
      have hrest := ih hread
      rw [List.length_cons]
      omega

theorem length_of_quotation? {cs behind : List Char} {text : String}
    (h : quotation? cs = some (text, behind)) : behind.length < cs.length := by
  unfold quotation? at h
  split at h
  · obtain ⟨⟨inner, left⟩, hread, heq⟩ := Option.map_eq_some_iff.1 h
    obtain ⟨-, rfl⟩ := Prod.mk.inj heq
    have hrest := length_of_quoted? hread
    rw [List.length_cons]
    exact Nat.lt_succ_of_lt hrest
  · cases h

/-! ## Results -/

/-- Reads a name, a colon and a literal, and gives what stands behind them. -/
def member? (cs : List Char) : Option ((String × String) × List Char) :=
  ((cs.dropWhile continuesIdentifier).dropPrefix? ": ".toList).bind fun value =>
    (quotation? value).map (Prod.map (String.ofList (cs.takeWhile continuesIdentifier), ·) id)

theorem length_of_member? {cs behind : List Char} {member : String × String}
    (h : member? cs = some (member, behind)) : behind.length < cs.length := by
  obtain ⟨value, hvalue, h⟩ := Option.bind_eq_some_iff.1 h
  obtain ⟨⟨text, left⟩, htext, heq⟩ := Option.map_eq_some_iff.1 h
  obtain ⟨-, rfl⟩ := Prod.mk.inj heq
  obtain ⟨colon, hdrop, -⟩ := List.dropPrefix?_eq_some_iff.1 hvalue
  have hname := (List.dropWhile_sublist continuesIdentifier (l := cs)).length_le
  have hrest := length_of_quotation? htext
  rw [hdrop, List.length_append] at hname
  exact Nat.lt_of_lt_of_le hrest (Nat.le_trans (Nat.le_add_left _ _) hname)

/-- Reads members with commas between them up to a closing brace. -/
def members? (cs : List Char) : Option (List (String × String)) :=
  match _h : member? cs with
  | some (member, ['\x7d']) => some [member]
  | some (member, ',' :: ' ' :: rest) =>
    (members? rest).map (member :: ·)
  | _ => none
termination_by cs.length
decreasing_by
  have hshorter := length_of_member? _h
  simp only [List.length_cons] at hshorter
  omega

def resultMark : String := "   * @returns \x7bobject\x7d \x7b"

/-- Reads the comment line of a result: every output's name with its description. -/
def result? (line : String) : Option (List (String × String)) :=
  (line.toList.dropPrefix? resultMark.toList).bind fun cs =>
    if cs = ['\x7d'] then some [] else members? cs

/-- The member of an output in the comment line of a result. -/
def memberText (member : String × String) : String := member.1 ++ ": " ++ singleQuoted member.2

theorem member?_append {name : String} (hname : IsWord name.toList) (text : String)
    (rest : List Char) :
    member? ((memberText (name, text)).toList ++ rest) = some ((name, text), rest) := by
  have hsplit : (memberText (name, text)).toList ++ rest =
      name.toList ++ ':' :: ' ' :: ((singleQuoted text).toList ++ rest) := by
    simp [memberText]
  have hcolon : ¬ continuesIdentifier ':' = true := by decide
  rw [member?, hsplit, List.dropWhile_append_of_pos hname, List.dropWhile_cons_of_neg hcolon,
    List.takeWhile_append_of_pos hname, List.takeWhile_cons_of_neg hcolon, List.append_nil]
  have hdrop : ∀ value : List Char, (':' :: ' ' :: value).dropPrefix? ": ".toList = some value := by
    intro value
    have hmark : ": ".toList = [':', ' '] := by decide
    rw [hmark]
    exact List.dropPrefix?_append_of_beq value (beq_self_eq_true [':', ' '])
  rw [hdrop, Option.bind_some, quotation?_append]
  simp

theorem members?_last {cs : List Char} {member : String × String}
    (h : member? cs = some (member, ['\x7d'])) : members? cs = some [member] := by
  rw [members?]
  split <;> simp_all

theorem members?_more {cs rest : List Char} {member : String × String}
    (h : member? cs = some (member, ',' :: ' ' :: rest)) :
    members? cs = (members? rest).map (member :: ·) := by
  rw [members?]
  split <;> simp_all

theorem members?_intercalate {members : List (String × String)} (hne : members ≠ [])
    (h : ∀ e ∈ members, IsWord e.1.toList) :
    members? ((", ".intercalate (members.map memberText)).toList ++ ['\x7d']) = some members := by
  induction members with
  | nil => exact absurd rfl hne
  | cons e rest ih =>
      rw [List.forall_mem_cons] at h
      cases rest with
      | nil => exact members?_last (member?_append h.1 e.2 ['\x7d'])
      | cons e' rest =>
          have hrest := ih (List.cons_ne_nil e' rest) h.2
          have hfirst := member?_append h.1 e.2 (',' :: ' ' ::
            ((", ".intercalate ((e' :: rest).map memberText)).toList ++ ['\x7d']))
          have hsplit : (", ".intercalate ((e :: e' :: rest).map memberText)).toList ++ ['\x7d'] =
              (memberText e).toList ++ (',' :: ' ' ::
                ((", ".intercalate ((e' :: rest).map memberText)).toList ++ ['\x7d'])) := by
            rw [List.map_cons, List.map_cons, String.intercalate_cons_cons]
            simp
          rw [hsplit, members?_more hfirst, hrest]
          rfl

theorem members?_brace : members? ['\x7d'] = none := by
  have hmember : member? ['\x7d'] = none := by decide
  rw [members?]
  split <;> simp_all

theorem result?_append {members : List (String × String)} (h : ∀ e ∈ members, IsWord e.1.toList) :
    result? (resultMark ++ ", ".intercalate (members.map memberText) ++ "\x7d") = some members := by
  have hline : (resultMark ++ ", ".intercalate (members.map memberText) ++ "\x7d").toList =
      resultMark.toList ++ ((", ".intercalate (members.map memberText)).toList ++ ['\x7d']) := by
    rw [String.toList_append, String.toList_append, List.append_assoc]
    rfl
  rw [result?, hline, List.dropPrefix?_append_of_beq _ (beq_self_eq_true _), Option.bind_some]
  cases members with
  | nil => exact if_pos rfl
  | cons e rest =>
      have hread := members?_intercalate (List.cons_ne_nil e rest) h
      have hmore : (", ".intercalate ((e :: rest).map memberText)).toList ++ ['\x7d'] ≠
          ['\x7d'] := by
        intro heq
        rw [heq, members?_brace] at hread
        cases hread
      rw [if_neg hmore, hread]

/-- The names and descriptions of outputs. -/
def described (outputs : List Slot) : List (String × String) :=
  outputs.map fun o => (o.name, o.description)

theorem resultComment_eq (outputs : List Slot) :
    "   * " ++ resultComment outputs =
      resultMark ++ ", ".intercalate ((described outputs).map memberText) ++ "\x7d" := by
  let list := ", ".intercalate ((described outputs).map memberText)
  have hlist : list =
      ", ".intercalate (outputs.map fun o => o.name ++ ": " ++ singleQuoted o.description) :=
    congrArg ", ".intercalate List.map_map
  have hcomment : resultComment outputs = "@returns \x7bobject\x7d \x7b" ++ (list ++ "\x7d") := by
    rw [hlist]
    exact String.append_assoc ..
  have hmark : resultMark = "   * " ++ "@returns \x7bobject\x7d \x7b" := by decide
  rw [hcomment, hmark, String.append_assoc, String.append_assoc]

theorem result?_resultComment {outputs : List Slot} (h : ∀ o ∈ outputs, IsWord o.name.toList) :
    result? ("   * " ++ resultComment outputs) = some (described outputs) := by
  rw [resultComment_eq]
  exact result?_append (List.forall_mem_map.2 h)

/-- Different names or descriptions have different comment lines. -/
theorem resultComment_inj {outputs outputs' : List Slot}
    (h : ∀ o ∈ outputs, IsWord o.name.toList) (h' : ∀ o ∈ outputs', IsWord o.name.toList) :
    resultComment outputs = resultComment outputs' ↔ described outputs = described outputs' := by
  constructor
  · intro heq
    have hread := result?_resultComment h
    rw [heq, result?_resultComment h'] at hread
    exact (Option.some.inj hread).symm
  · intro heq
    have hlines : "   * " ++ resultComment outputs = "   * " ++ resultComment outputs' := by
      rw [resultComment_eq, resultComment_eq, heq]
    exact (String.append_right_inj "   * ").1 hlines

/-! ### In a class -/

variable {a : Algorithm} {s : Settings} {inputs : List Wrapper.Input} {m : Wrapper.Method}

theorem result?_eq_none {l : String} (h : ¬ resultMark.toList <+: l.toList) : result? l = none := by
  rw [result?, Option.bind_eq_none_iff]
  intro rest hdrop
  obtain ⟨mark, hsplit, hmark⟩ := List.dropPrefix?_eq_some_iff.1 hdrop
  rw [beq_iff_eq] at hmark
  subst hmark
  exact absurd ⟨rest, hsplit.symm⟩ h

theorem result?_of_beginsMember {l : String} (h : Wrapper.beginsMember l = true) :
    result? l = none := by
  apply result?_eq_none
  rintro ⟨rest, hl⟩
  have hcomment : Wrapper.beginsMember l = startsIdentifier ' ' := by
    rw [Wrapper.beginsMember, ← hl]
    rfl
  rw [h] at hcomment
  cases hcomment

/-- In a method only a line of its comment can describe a result. -/
theorem filterMap_methodLines (hm : m ∈ Wrapper.methods a s inputs) :
    m.lines.filterMap result? = m.comment.filterMap fun c => result? ("   * " ++ c) := by
  have hopen : result? "  /**" = none := result?_eq_none (by decide)
  have hclose : result? "  */" = none := result?_eq_none (by decide)
  have hend : result? "  \x7d" = none := result?_eq_none (by decide)
  have hhead : result? ("  " ++ m.head ++ " \x7b") = none :=
    result?_of_beginsMember (Wrapper.beginsMember_headLine hm)
  have hbody : ((m.body.flatMap Wrapper.Statement.lines).map ("    " ++ ·)).filterMap result? =
      [] := by
    rw [List.filterMap_eq_nil_iff]
    intro l hl
    obtain ⟨line, -, rfl⟩ := List.mem_map.1 hl
    exact result?_eq_none (by simp [resultMark])
  have hcomment : (if m.comment.isEmpty then []
      else ["  /**"] ++ m.comment.map ("   * " ++ ·) ++ ["  */"]).filterMap result? =
      m.comment.filterMap fun c => result? ("   * " ++ c) := by
    split
    · rename_i hempty
      rw [List.isEmpty_iff.1 hempty]
      rfl
    · simp [hopen, hclose, List.filterMap_map]
  rw [Wrapper.Method.lines, List.filterMap_append, List.filterMap_append, List.filterMap_append,
    hcomment, hbody]
  simp [hhead, hend]

theorem result?_comment {c : String} (h : ¬ "@returns".toList <+: c.toList) :
    result? ("   * " ++ c) = none := by
  refine result?_eq_none fun hbegins => h ?_
  have hmark : resultMark.toList = "   * ".toList ++ "@returns \x7bobject\x7d \x7b".toList := by
    decide
  rw [hmark, String.toList_append, List.prefix_append_right_inj] at hbegins
  exact List.IsPrefix.trans (by decide) hbegins

/-- The comment of `compute` is the only one that describes a result. -/
theorem filterMap_comments (h : ∀ o ∈ a.outputs, IsWord o.name.toList) :
    ((Wrapper.methods a s inputs).flatMap fun m =>
      m.comment.filterMap fun c => result? ("   * " ++ c)) = [described a.outputs] := by
  have hother : ∀ cs : List String, (∀ c ∈ cs, ¬ "@returns".toList <+: c.toList) →
      cs.filterMap (fun c => result? ("   * " ++ c)) = [] := by
    intro cs hcs
    rw [List.filterMap_eq_nil_iff]
    exact fun c hc => result?_comment (hcs c hc)
  have hparameter := hother (Wrapper.parameterComment a (s.qualifiedParameterType a.name)) (by
    unfold Wrapper.parameterComment
    split <;> simp [Wrapper.argumentComment])
  have hinputs := hother
    (inputs.map fun i => Wrapper.argumentComment i.documented i.name ++ " " ++ i.description)
    (by simp [Wrapper.argumentComment])
  have hmember : result? ("   * " ++ Wrapper.memberComment a) = none :=
    result?_comment (by simp [Wrapper.memberComment])
  simp (disch := decide) only [Wrapper.methods, List.flatMap_append, List.flatMap_cons,
    List.flatMap_nil, List.filterMap_append, List.filterMap_cons, List.filterMap_nil, hparameter,
    hinputs, hmember, result?_comment, result?_resultComment h, List.append_nil, List.nil_append]
  -- the merge has no comment, whether there is one or not
  split <;> rfl

theorem filterMap_classLines (h : ∀ o ∈ a.outputs, IsWord o.name.toList) :
    (Wrapper.classLines a s inputs).filterMap result? = [described a.outputs] := by
  have hopening : (openingLines a s).filterMap result? = [] := by
    rw [List.filterMap_eq_nil_iff]
    exact fun l hl => result?_eq_none (not_prefix_opening rfl l hl)
  have hfields : (Wrapper.fieldLines a (s.qualifiedParameterType a.name)).filterMap result? =
      [] := by
    rw [List.filterMap_eq_nil_iff]
    intro l hl
    refine result?_eq_none ?_
    unfold Wrapper.fieldLines at hl
    split at hl
    · simp only [List.mem_append, List.mem_cons, List.mem_map, List.not_mem_nil, or_false] at hl
      rcases hl with rfl | (rfl | ⟨p, -, rfl⟩) | rfl | rfl
      · decide
      · simp [resultMark]
      · simp [resultMark]
      · decide
      · simp [resultMark]
    · rw [List.mem_singleton.1 hl]
      decide
  have hmethods : ((Wrapper.methods a s inputs).flatMap Wrapper.Method.lines).filterMap result? =
      [described a.outputs] := by
    rw [List.filterMap_flatMap, List.flatMap_congr fun m hm => filterMap_methodLines hm]
    exact filterMap_comments h
  have hend : ["\x7d"].filterMap result? = [] := by
    rw [List.filterMap_cons_none (result?_eq_none (by decide)), List.filterMap_nil]
  rw [Wrapper.classLines, ← openingLines, List.filterMap_append, List.filterMap_append,
    List.filterMap_append, hopening, hfields, hmethods, hend]
  rfl

/-! ## Defaults -/

theorem quotation?_defaultLiteral {p : Parameter} (htag : p.tag = .string) :
    quotation? (defaultLiteral p).toList = some (p.default, []) := by
  have hread := quotation?_append p.default []
  rw [List.append_nil] at hread
  rw [defaultLiteral, htag]
  exact hread

theorem defaultLiteral_inj {p q : Parameter} (hp : p.tag = .string) (hq : q.tag = .string) :
    defaultLiteral p = defaultLiteral q ↔ p.default = q.default := by
  rw [defaultLiteral, defaultLiteral, hp, hq]
  exact singleQuoted_inj

theorem keyValue?_string {p : Parameter} (hname : IsWord p.name.toList) (htag : p.tag = .string) :
    keyValue? ("    " ++ p.name ++ ": " ++ defaultLiteral p ++ ",") =
      some (p.name, .text p.default) := by
  refine keyValue?_eq hname ?_
  rw [defaultLiteral, htag]
  exact literal?_singleQuoted p.default

/-! ## Everything that is quoted -/

/-- Quoting loses nothing. A reader of the literal of any text, whatever stands behind it, takes
exactly the literal and has the text. So the default of a text and the description of a result are
read back as they were, and what differs is written differently. In the class of an algorithm one
line describes the result, with all the outputs in order, and every default that is a text stands
behind its name. -/
theorem quotes_decode :
    (∀ (text : String) (rest : List Char),
        quotation? ((singleQuoted text).toList ++ rest) = some (text, rest)) ∧
      (∀ text text' : String, singleQuoted text = singleQuoted text' ↔ text = text') ∧
      (∀ p : Parameter, p.tag = .string →
        quotation? (defaultLiteral p).toList = some (p.default, [])) ∧
      (∀ p q : Parameter, p.tag = .string → q.tag = .string →
        (defaultLiteral p = defaultLiteral q ↔ p.default = q.default)) ∧
      (∀ outputs : List Slot, (∀ o ∈ outputs, isIdentifier o.name = true) →
        result? ("   * " ++ resultComment outputs) = some (described outputs)) ∧
      (∀ outputs outputs' : List Slot, (∀ o ∈ outputs, isIdentifier o.name = true) →
        (∀ o ∈ outputs', isIdentifier o.name = true) →
          (resultComment outputs = resultComment outputs' ↔
            described outputs = described outputs')) ∧
      ∀ (d : Descriptor) (s : Settings) (a : Algorithm) (x : Artifact), d.HasIdentifiers →
        Algorithm.ofDescriptor s d = .ok a → emit .wrapper a s = .ok x →
          x.lines.filterMap result? = [d.outputs.map fun o => (o.name, o.description)] ∧
            ∀ p ∈ d.parameters, p.tag = .string →
              ∃ l ∈ x.lines, keyValue? l = some (p.name, .text p.default) := by
  have hwords : ∀ {outputs : List Slot}, (∀ o ∈ outputs, isIdentifier o.name = true) →
      ∀ o ∈ outputs, IsWord o.name.toList :=
    fun h o ho => isWord_of_isIdentifier (h o ho)
  refine ⟨quotation?_append, fun _ _ => singleQuoted_inj, fun _ => quotation?_defaultLiteral,
    fun _ _ => defaultLiteral_inj, fun _ h => result?_resultComment (hwords h),
    fun _ _ h h' => resultComment_inj (hwords h) (hwords h'), ?_⟩
  intro d s a x hd ha hx
  obtain ⟨-, rfl⟩ := Algorithm.ofDescriptor_eq_ok.1 ha
  rw [Wrapper.wrapperClass_lines hx]
  constructor
  · rw [filterMap_classLines, described, List.map_map]
    · rfl
    · intro o ho
      obtain ⟨p, hp, rfl⟩ := List.mem_map.1 ho
      exact isWord_of_isIdentifier (hd.outputs p hp)
  · intro p hp htag
    exact ⟨_, Native.default_mem_classLines hp s _,
      keyValue?_string (isWord_of_isIdentifier (hd.parameters p hp)) htag⟩

/-- Backslashes before quotes and at the ends of texts, and descriptions that look like what stands
between them. -/
theorem quotes_decode_backslashes :
    let d : Descriptor := {
      name := "Split"
      outputs := [⟨"low", .real, "it's \\\\', high: '\x7d"⟩, ⟨"high", .real, "\\"⟩]
      parameters := [⟨"mark", .string, "\\'\\\\", ""⟩] }
    ∃ a x, Algorithm.ofDescriptor {} d = .ok a ∧ emit .wrapper a {} = .ok x ∧
      x.lines.filterMap result? = [[("low", "it's \\\\', high: '\x7d"), ("high", "\\")]] ∧
      ∃ l ∈ x.lines, keyValue? l = some ("mark", .text "\\'\\\\") := by
  intro d
  obtain ⟨-, -, -, -, -, -, hclass⟩ := quotes_decode
  have hd : d.HasIdentifiers := by
    constructor <;> decide
  obtain ⟨hresults, hdefaults⟩ := hclass d {} _ _ hd rfl rfl
  exact ⟨_, _, rfl, rfl, hresults, hdefaults _ List.mem_cons_self rfl⟩

end Bindery.Script
