import Bindery.Proofs.ParameterTypes
import Mathlib.Data.List.Infix

/-!
# Comments

The files of the wrapper have comments that are opened and closed by lines of their own, with
texts of the catalog on the lines between. A reader of a file does not go by lines: in a comment
nothing counts but the first star with a slash behind it. No text makes such a pair together
with what stands around it, and escapes neither make one nor part one, so that a comment is cut
short exactly when one of its texts has the pair in itself.
-/

namespace Bindery.Wrapper

/-! ## Texts that end a comment -/

/-- A reader who comes upon this text in a comment leaves the comment there. -/
def EndsComment (text : String) : Prop := ['*', '/'] <:+: text.toList

instance : DecidablePred EndsComment :=
  fun text => inferInstanceAs (Decidable (['*', '/'] <:+: text.toList))

variable {u v : List Char}

theorem pair_infix_cons {x y c : Char} :
    [x, y] <:+: c :: u ↔ (c = x ∧ u.head? = some y) ∨ [x, y] <:+: u := by
  have hprefix : [x, y] <+: c :: u ↔ c = x ∧ u.head? = some y := by
    cases u with
    | nil => simp
    | cons d u => simp [eq_comm]
  rw [List.infix_cons_iff, hprefix]

/-- A pair is in two texts put together if it is in one of them, or if they meet in it. -/
theorem pair_infix_append {x y : Char} :
    [x, y] <:+: u ++ v ↔
      [x, y] <:+: u ∨ [x, y] <:+: v ∨ (u.getLast? = some x ∧ v.head? = some y) := by
  induction u with
  | nil => simp
  | cons c u ih =>
      rw [List.cons_append, pair_infix_cons, pair_infix_cons, ih]
      cases u with
      | nil =>
          simp only [List.nil_append, List.infix_nil, List.head?_nil, List.getLast?_singleton,
            List.getLast?_nil, Option.some_inj, reduceCtorEq, and_false, false_and, false_or]
          tauto
      | cons d u =>
          rw [List.cons_append, List.head?_cons, List.head?_cons, List.getLast?_cons_cons]
          tauto

theorem not_pair_infix {x y : Char} (h : x ∉ u) : ¬ [x, y] <:+: u :=
  fun hpair => h (hpair.subset List.mem_cons_self)

theorem endsComment_append {s t : String}
    (h : s.toList.getLast? ≠ some '*' ∨ t.toList.head? ≠ some '/') :
    EndsComment (s ++ t) ↔ EndsComment s ∨ EndsComment t := by
  unfold EndsComment
  rw [String.toList_append, pair_infix_append]
  tauto

theorem not_endsComment {text : String} (h : '*' ∉ text.toList) : ¬ EndsComment text :=
  not_pair_infix h

theorem endsComment_append_left {before text : String} (h : '*' ∉ before.toList) :
    EndsComment (before ++ text) ↔ EndsComment text := by
  have hlast : before.toList.getLast? ≠ some '*' := fun hlast => h (List.mem_of_getLast? hlast)
  rw [endsComment_append (.inl hlast), or_iff_right (not_endsComment h)]

theorem endsComment_append_right {text after : String} (h : '*' ∉ after.toList)
    (hhead : after.toList.head? ≠ some '/') : EndsComment (text ++ after) ↔ EndsComment text := by
  rw [endsComment_append (.inr hhead), or_iff_left (not_endsComment h)]

theorem endsComment_intercalate {texts : List String} :
    EndsComment (", ".intercalate texts) ↔ ∃ text ∈ texts, EndsComment text := by
  induction texts with
  | nil => simp [EndsComment]
  | cons t rest ih =>
      cases rest with
      | nil => simp
      | cons t' rest =>
          rw [String.intercalate_cons_cons, String.append_assoc,
            endsComment_append (.inr (by simp)), endsComment_append_left (by decide), ih]
          simp

/-! ### Escapes -/

theorem head?_escapedText : (escapedText u).head? = some '/' ↔ u.head? = some '/' := by
  cases u with
  | nil => rfl
  | cons c u =>
      rw [escapedText]
      split
      · rename_i hc
        rcases hc with rfl | rfl <;> simp
      · simp

/-- A backslash comes before backslashes and quotes only, never between a star and a slash. -/
theorem pair_infix_escapedText : ['*', '/'] <:+: escapedText u ↔ ['*', '/'] <:+: u := by
  induction u with
  | nil => rfl
  | cons c u ih =>
      rw [escapedText]
      split
      · rename_i hc
        have hstar : c ≠ '*' := by
          rintro rfl
          simp at hc
        rw [pair_infix_cons, pair_infix_cons, pair_infix_cons, ih]
        simp [hstar]
      · rw [pair_infix_cons, pair_infix_cons, ih, head?_escapedText]

theorem endsComment_singleQuoted {text : String} :
    EndsComment (singleQuoted text) ↔ EndsComment text := by
  rw [singleQuoted, endsComment_append_right (by decide) (by decide),
    endsComment_append_left (by decide), EndsComment, escaped, String.toList_ofList,
    pair_infix_escapedText, EndsComment]

/-! ## Readers in a comment -/

/-- What stands behind the comment that a text begins inside of. -/
def behindComment? : List Char → Option (List Char)
  | '*' :: '/' :: rest => some rest
  | _ :: rest => behindComment? rest
  | [] => none

/-- A reader leaves a comment at a star and a slash if none stand before. -/
theorem behindComment?_append (rest : List Char) :
    behindComment? (u ++ '*' :: '/' :: rest) = some rest ↔ ¬ ['*', '/'] <:+: u := by
  induction u with
  | nil => simp [behindComment?]
  | cons c u ih =>
      by_cases hearly : c = '*' ∧ u.head? = some '/'
      · obtain ⟨rfl, hslash⟩ := hearly
        obtain ⟨tail, rfl⟩ := List.head?_eq_some_iff.1 hslash
        have hpair : ['*', '/'] <:+: '*' :: '/' :: tail := ⟨[], tail, rfl⟩
        have hlonger : tail ++ '*' :: '/' :: rest ≠ rest := by
          intro heq
          have hlength := congrArg List.length heq
          simp only [List.length_append, List.length_cons] at hlength
          omega
        simp [behindComment?, hpair, hlonger]
      · have hstep : behindComment? (c :: (u ++ '*' :: '/' :: rest)) =
            behindComment? (u ++ '*' :: '/' :: rest) := by
          apply behindComment?.eq_2
          intro tail hc hu
          apply hearly
          refine ⟨hc, ?_⟩
          cases u with
          | nil => simp at hu
          | cons d u => simpa using (List.cons.inj hu).1
        rw [List.cons_append, hstep, ih, pair_infix_cons, or_iff_right hearly]

/-! ## Comments of files -/

def opensComment (line : String) : Bool := line.toList.dropWhile (· == ' ') == "/**".toList

def closesComment (line : String) : Bool := line.toList.dropWhile (· == ' ') == "*/".toList

/-- The lines behind the first one that closes a comment. -/
def behindClosing? : List String → Option (List String)
  | [] => none
  | l :: rest => if closesComment l then some rest else behindClosing? rest

/-- What stands in a file behind a line that these lines follow. -/
def following (lines : List String) : List Char := lines.flatMap fun l => '\n' :: l.toList

/-- Where these lines go on with a comment, a reader of the text leaves it at the end of the next
line that closes one. -/
def ClosesNext (after : List String) : Prop :=
  ∃ rest, behindClosing? after = some rest ∧
    behindComment? (following after) = some (following rest)

/-- Every comment that a line opens is closed by the next line that closes one, not before. -/
def CommentsClose (lines : List String) : Prop :=
  ∀ opening after, opening :: after <:+ lines → opensComment opening = true → ClosesNext after

variable {l opening closing : String} {inner code rest after lines : List String}

theorem following_append : following (inner ++ rest) = following inner ++ following rest :=
  List.flatMap_append

theorem commentsClose_nil : CommentsClose [] := by
  intro opening after hsuffix
  simp at hsuffix

theorem commentsClose_cons :
    CommentsClose (l :: rest) ↔ (opensComment l = true → ClosesNext rest) ∧ CommentsClose rest := by
  unfold CommentsClose
  simp only [List.suffix_cons_iff, List.cons.injEq]
  constructor
  · intro h
    exact ⟨h l rest (.inl ⟨rfl, rfl⟩), fun opening after hsuffix => h opening after (.inr hsuffix)⟩
  · rintro ⟨hfirst, hrest⟩ opening after (⟨rfl, rfl⟩ | hsuffix) hopens
    · exact hfirst hopens
    · exact hrest opening after hsuffix hopens

theorem commentsClose_append (h : ∀ l ∈ code, opensComment l = false) :
    CommentsClose (code ++ rest) ↔ CommentsClose rest := by
  induction code with
  | nil => rfl
  | cons l code ih =>
      rw [List.forall_mem_cons] at h
      rw [List.cons_append, commentsClose_cons, ih h.2]
      simp [h.1]

theorem pair_infix_following :
    ['*', '/'] <:+: following lines ↔ ∃ l ∈ lines, EndsComment l := by
  induction lines with
  | nil => simp [following]
  | cons l lines ih =>
      have hhead : (following lines).head? ≠ some '/' := by
        cases lines <;> simp [following]
      have hcons : following (l :: lines) = '\n' :: (l.toList ++ following lines) := rfl
      rw [hcons, pair_infix_cons, pair_infix_append, ih]
      simp [hhead, EndsComment]

theorem behindClosing?_append (hinner : ∀ l ∈ inner, closesComment l = false)
    (hclosing : closesComment closing = true) :
    behindClosing? (inner ++ closing :: rest) = some rest := by
  induction inner with
  | nil => exact if_pos hclosing
  | cons l inner ih =>
      rw [List.forall_mem_cons] at hinner
      rw [List.cons_append, behindClosing?, hinner.1]
      exact ih hinner.2

/-- The line that closes a comment has nothing but blanks before its mark. -/
theorem exists_indent (h : closesComment closing = true) :
    ∃ indent, '*' ∉ indent ∧ closing.toList = indent ++ ['*', '/'] := by
  refine ⟨closing.toList.takeWhile (· == ' '), ?_, ?_⟩
  · intro hmem
    have hblank := List.mem_takeWhile_imp hmem
    simp at hblank
  · have hmark := beq_iff_eq.1 h
    have hsplit := List.takeWhile_append_dropWhile (p := (· == ' ')) (l := closing.toList)
    rw [hmark] at hsplit
    exact hsplit.symm

theorem closesNext_iff (hinner : ∀ l ∈ inner, closesComment l = false)
    (hclosing : closesComment closing = true) :
    ClosesNext (inner ++ closing :: rest) ↔ ∀ l ∈ inner, ¬ EndsComment l := by
  obtain ⟨indent, hindent, hmark⟩ := exists_indent hclosing
  have hsplit : following (inner ++ closing :: rest) =
      (following inner ++ '\n' :: indent) ++ '*' :: '/' :: following rest := by
    rw [following_append]
    simp [following, hmark]
  have hblank : ¬ ['*', '/'] <:+: '\n' :: indent := not_pair_infix (by simp [hindent])
  have hread := behindComment?_append (u := following inner ++ '\n' :: indent) (following rest)
  rw [pair_infix_append, or_iff_left (by simp [hblank]), pair_infix_following, ← hsplit] at hread
  rw [ClosesNext, behindClosing?_append hinner hclosing]
  simpa using hread

/-- What the lines of a comment begin with. -/
def lineMarks : List String := ["* ", " * ", "   * "]

theorem not_mark {mark : String} (hmark : mark ∈ lineMarks) (text : String) :
    opensComment (mark ++ text) = false ∧ closesComment (mark ++ text) = false := by
  simp only [lineMarks, List.mem_cons, List.not_mem_nil, or_false] at hmark
  rcases hmark with rfl | rfl | rfl <;> simp [opensComment, closesComment]

theorem endsComment_marked {mark : String} (hmark : mark ∈ lineMarks) (text : String) :
    EndsComment (mark ++ text) ↔ EndsComment text := by
  have hblank : ∀ mark ∈ lineMarks, mark.toList.getLast? ≠ some '*' ∧ ¬ EndsComment mark := by
    decide
  rw [endsComment_append (.inl (hblank mark hmark).1), or_iff_right (hblank mark hmark).2]

/-- The line ends, and not in a star as those that open comments do. -/
def endsInCode (line : String) : Bool := line.toList.getLast?.any (· != '*')

theorem endsInCode_append {before after : String} (h : endsInCode after = true) :
    endsInCode (before ++ after) = true := by
  unfold endsInCode at h ⊢
  rw [String.toList_append, List.getLast?_append]
  cases hlast : after.toList.getLast? with
  | none => simp [hlast] at h
  | some c => simpa [hlast] using h

theorem opensComment_eq_false (h : endsInCode l = true) : opensComment l = false := by
  rw [opensComment, beq_eq_false_iff_ne]
  intro hmark
  have hsplit := List.takeWhile_append_dropWhile (p := (· == ' ')) (l := l.toList)
  rw [endsInCode, ← hsplit, hmark] at h
  simp at h

/-- A comment is closed where it should be exactly when no line in it ends it. -/
theorem commentsClose_comment (hopening : opensComment opening = true)
    (hinner : ∀ l ∈ inner, opensComment l = false ∧ closesComment l = false)
    (hclosing : closesComment closing = true) :
    CommentsClose (opening :: (inner ++ closing :: rest)) ↔
      (∀ l ∈ inner, ¬ EndsComment l) ∧ CommentsClose rest := by
  have hlast : opensComment closing = false := by
    obtain ⟨indent, -, hmark⟩ := exists_indent hclosing
    exact opensComment_eq_false (by simp [endsInCode, hmark])
  have hbehind : CommentsClose (inner ++ closing :: rest) ↔ CommentsClose rest := by
    rw [commentsClose_append fun l hl => (hinner l hl).1, commentsClose_cons]
    simp [hlast]
  rw [commentsClose_cons, closesNext_iff (fun l hl => (hinner l hl).2) hclosing, hbehind]
  simp [hopening]

/-! ## Classes -/

variable {a : Algorithm} {s : Settings} {inputs : List Input}

theorem endsInCode_statement {st : Statement} (hl : l ∈ st.lines) : endsInCode l = true := by
  cases st with
  | coerce name =>
      simp only [Statement.lines, List.mem_cons, List.not_mem_nil, or_false] at hl
      rcases hl with rfl | rfl | rfl
      · exact endsInCode_append (by decide)
      · exact endsInCode_append (by decide)
      · decide
  | update => rw [List.mem_singleton.1 hl]; decide
  | delete => rw [List.mem_singleton.1 hl]; decide
  | copy => rw [List.mem_singleton.1 hl]; decide
  | _ =>
      rw [List.mem_singleton.1 hl]
      exact endsInCode_append (by decide)

theorem endsInCode_fieldLines {type : String} : ∀ l ∈ fieldLines a type, endsInCode l = true := by
  intro l hl
  unfold fieldLines at hl
  split at hl
  · simp only [List.mem_append, List.mem_cons, List.mem_map, List.not_mem_nil, or_false] at hl
    rcases hl with rfl | (rfl | ⟨p, -, rfl⟩) | rfl | rfl
    · decide
    · exact endsInCode_append (by decide)
    · exact endsInCode_append (by decide)
    · decide
    · exact endsInCode_append (by decide)
  · rw [List.mem_singleton.1 hl]
    decide

theorem commentsClose_method (m : Method) :
    CommentsClose (m.lines ++ rest) ↔
      (∀ c ∈ m.comment, ¬ EndsComment c) ∧ CommentsClose rest := by
  let code := ["  " ++ m.head ++ " \x7b"] ++ (m.body.flatMap Statement.lines).map ("    " ++ ·) ++
    ["  \x7d"]
  have hcode : CommentsClose (code ++ rest) ↔ CommentsClose rest := by
    apply commentsClose_append
    intro l hl
    simp only [code, List.mem_append, List.mem_singleton, List.mem_map, List.mem_flatMap] at hl
    apply opensComment_eq_false
    rcases hl with (rfl | ⟨line, ⟨st, -, hline⟩, rfl⟩) | rfl
    · exact endsInCode_append (by decide)
    · exact endsInCode_append (endsInCode_statement hline)
    · decide
  by_cases hempty : m.comment = []
  · have hlines : m.lines = code := by
      simp [Method.lines, hempty, code]
    rw [hlines, hcode, hempty]
    simp
  · have hlines : m.lines ++ rest =
        "  /**" :: (m.comment.map ("   * " ++ ·) ++ "  */" :: (code ++ rest)) := by
      simp [Method.lines, hempty, code]
    have hinner : ∀ l ∈ m.comment.map ("   * " ++ ·),
        opensComment l = false ∧ closesComment l = false := by
      intro l hl
      obtain ⟨c, -, rfl⟩ := List.mem_map.1 hl
      exact not_mark (by decide) c
    have hends : ∀ c, EndsComment ("   * " ++ c) ↔ EndsComment c := endsComment_marked (by decide)
    rw [hlines, commentsClose_comment (by decide) hinner (by decide), hcode, List.forall_mem_map]
    simp only [hends]

theorem commentsClose_methods (ms : List Method) :
    CommentsClose (ms.flatMap Method.lines ++ rest) ↔
      (∀ m ∈ ms, ∀ c ∈ m.comment, ¬ EndsComment c) ∧ CommentsClose rest := by
  induction ms with
  | nil => simp
  | cons m ms ih =>
      rw [List.flatMap_cons, List.append_assoc, commentsClose_method, ih, List.forall_mem_cons,
        and_assoc]

def summaryLine (a : Algorithm) (s : Settings) : String :=
  "* " ++ (a.descriptor.summary ++ (" Check " ++ s.referenceUrl a.name ++ " for more details."))

theorem commentsClose_classLines :
    CommentsClose (classLines a s inputs) ↔ ¬ EndsComment (summaryLine a s) ∧
      ∀ m ∈ methods a s inputs, ∀ c ∈ m.comment, ¬ EndsComment c := by
  let fields := ("class " ++ a.name ++ " \x7b") :: fieldLines a (s.qualifiedParameterType a.name)
  have hlines : classLines a s inputs = "/**" :: ([summaryLine a s, "* @class"] ++
      "*/" :: (fields ++ ((methods a s inputs).flatMap Method.lines ++ ["\x7d"]))) := by
    simp [classLines, summaryLine, fields, String.append_assoc]
  have hfields : ∀ l ∈ fields, opensComment l = false := by
    rw [List.forall_mem_cons]
    exact ⟨opensComment_eq_false (endsInCode_append (by decide)),
      fun l hl => opensComment_eq_false (endsInCode_fieldLines l hl)⟩
  have hinner : ∀ l ∈ [summaryLine a s, "* @class"],
      opensComment l = false ∧ closesComment l = false := by
    simp only [List.forall_mem_cons]
    exact ⟨not_mark (by decide) _, by decide, List.forall_mem_nil _⟩
  have hend : CommentsClose ["\x7d"] := by
    rw [commentsClose_cons]
    exact ⟨fun hopens => absurd hopens (by decide), commentsClose_nil⟩
  have hclass : ¬ EndsComment "* @class" := by decide
  rw [hlines, commentsClose_comment (by decide) hinner (by decide), commentsClose_append hfields,
    commentsClose_methods, and_iff_left hend]
  simp [hclass]

theorem endsComment_summaryLine (hname : '*' ∉ a.name.toList)
    (hreference : '*' ∉ s.referenceBase.toList) :
    EndsComment (summaryLine a s) ↔ EndsComment a.descriptor.summary := by
  have hafter : '*' ∉ (" Check " ++ s.referenceUrl a.name ++ " for more details.").toList := by
    simp [Settings.referenceUrl, hname, hreference]
  rw [summaryLine, endsComment_marked (by decide), endsComment_append_right hafter (by simp)]

theorem endsComment_resultComment {outputs : List Slot} (h : ∀ o ∈ outputs, '*' ∉ o.name.toList) :
    EndsComment (resultComment outputs) ↔ ∃ o ∈ outputs, EndsComment o.description := by
  have hmember : ∀ o ∈ outputs, (EndsComment (o.name ++ ": " ++ singleQuoted o.description) ↔
      EndsComment o.description) := by
    intro o ho
    rw [endsComment_append_left (by simp [h o ho]), endsComment_singleQuoted]
  unfold resultComment
  rw [endsComment_append_right (by decide) (by decide), endsComment_append_left (by decide),
    endsComment_intercalate]
  simp only [List.mem_map, exists_exists_and_eq_and]
  exact exists_congr fun o => and_congr_right fun ho => hmember o ho

/-- The texts in the comments of methods are the descriptions of inputs and outputs. -/
theorem methods_comments (hname : '*' ∉ a.name.toList) (hspace : '*' ∉ s.typeNamespace.toList)
    (hinputs : ∀ i ∈ inputs, '*' ∉ i.documented.toList ∧ '*' ∉ i.name.toList)
    (houtputs : ∀ o ∈ a.outputs, '*' ∉ o.name.toList) :
    (∀ m ∈ methods a s inputs, ∀ c ∈ m.comment, ¬ EndsComment c) ↔
      (∀ i ∈ inputs, ¬ EndsComment i.description) ∧
        ∀ o ∈ a.outputs, ¬ EndsComment o.description := by
  have hparameter : ∀ c ∈ parameterComment a (s.qualifiedParameterType a.name),
      ¬ EndsComment c := by
    intro c hc
    unfold parameterComment at hc
    split at hc
    · rw [List.mem_singleton.1 hc]
      apply not_endsComment
      simp [argumentComment, Settings.qualifiedParameterType, Settings.parameterType, hname, hspace]
    · cases hc
  have hmember : ¬ EndsComment (memberComment a) := not_endsComment (by simp [memberComment, hname])
  have hinput : ∀ i ∈ inputs,
      (EndsComment (argumentComment i.documented i.name ++ " " ++ i.description) ↔
        EndsComment i.description) := by
    intro i hi
    obtain ⟨hdocumented, hname⟩ := hinputs i hi
    exact endsComment_append_left (by simp [argumentComment, hdocumented, hname])
  have hresult := endsComment_resultComment houtputs
  constructor
  · intro h
    have hcompute := h _ (List.mem_append_left _ (List.mem_cons_of_mem _ (List.mem_cons_of_mem _
      List.mem_cons_self)))
    simp only [List.forall_mem_append, List.forall_mem_map, List.forall_mem_cons] at hcompute
    obtain ⟨⟨-, hdescriptions⟩, hreturned, -⟩ := hcompute
    refine ⟨fun i hi hends => hdescriptions i hi ((hinput i hi).2 hends), fun o ho hends => ?_⟩
    exact hreturned (hresult.2 ⟨o, ho, hends⟩)
  · rintro ⟨hdescriptions, hdescribed⟩ m hm
    have hreturned : ¬ EndsComment (resultComment a.outputs) := by
      rw [hresult]
      rintro ⟨o, ho, hends⟩
      exact hdescribed o ho hends
    have hgiven : ∀ i ∈ inputs,
        ¬ EndsComment (argumentComment i.documented i.name ++ " " ++ i.description) :=
      fun i hi hends => hdescriptions i hi ((hinput i hi).1 hends)
    have hnone : ∀ c ∈ ([] : List String), ¬ EndsComment c := List.forall_mem_nil _
    simp only [methods, List.mem_append, List.mem_cons, List.not_mem_nil, or_false] at hm
    rcases hm with (rfl | rfl | rfl | rfl) | hm
    · simp only [List.forall_mem_append, List.forall_mem_cons]
      exact ⟨⟨not_endsComment (by simp), by decide, hnone⟩, hparameter⟩
    · simp only [List.forall_mem_append, List.forall_mem_cons]
      exact ⟨⟨⟨by decide, by decide, hnone⟩, hparameter⟩, hmember, hnone⟩
    · simp only [List.forall_mem_append, List.forall_mem_cons, List.forall_mem_map]
      exact ⟨⟨⟨by decide, by decide, hnone⟩, hgiven⟩, hreturned, hmember, hnone⟩
    · simp only [List.forall_mem_cons]
      exact ⟨by decide, by decide, hmember, hnone⟩
    · split at hm
      · rw [List.mem_singleton.1 hm]
        exact hnone
      · cases hm

/-! ## Parameter types -/

/-- Of the defaults, only a text can have a star. -/
theorem endsComment_defaultLiteral {p : Parameter} (h : p.tag.accepts p.default = true) :
    EndsComment (defaultLiteral p) ↔ p.tag = .string ∧ EndsComment p.default := by
  by_cases hstring : p.tag = .string
  · rw [defaultLiteral, hstring, and_iff_right rfl]
    exact endsComment_singleQuoted
  · have hstar : '*' ∉ (defaultLiteral p).toList := fun hmem =>
      absurd (Script.isExpressionChar_defaultLiteral hstring h _ hmem) (by decide)
    exact iff_of_false (not_endsComment hstar) fun hends => hstring hends.1

theorem comment_eq (f : Field) :
    f.comment = " * " ++ (("@param \x7b" ++ f.type ++ "\x7d [" ++ f.parameter.name ++ "=") ++
      (defaultLiteral f.parameter ++ ("] " ++ f.parameter.description))) := by
  delta Field.comment
  simp [← String.toList_inj]

theorem star_not_mem_wrapperType (t : Tag) : '*' ∉ (wrapperType t).toList := by
  cases t with
  | other name => simp [wrapperType, Tag.wrapper?]
  | _ => decide

theorem endsComment_comment {p : Parameter} (hname : '*' ∉ p.name.toList)
    (h : p.tag.accepts p.default = true) :
    EndsComment (parameterField p).comment ↔
      (p.tag = .string ∧ EndsComment p.default) ∨ EndsComment p.description := by
  let slot := "@param \x7b" ++ wrapperType p.tag ++ "\x7d [" ++ p.name ++ "="
  have hslot : '*' ∉ slot.toList := by
    simp [slot, hname, star_not_mem_wrapperType p.tag]
  have hcomment : (parameterField p).comment =
      " * " ++ (slot ++ (defaultLiteral p ++ ("] " ++ p.description))) := comment_eq _
  rw [hcomment, endsComment_marked (by decide), endsComment_append_left hslot,
    endsComment_append (.inr (by simp)), endsComment_append_left (by decide),
    endsComment_defaultLiteral h]

theorem commentsClose_typeLines {fs : List Field} (hname : '*' ∉ a.name.toList) :
    CommentsClose (typeLines a fs) ↔ ∀ f ∈ fs, ¬ EndsComment f.comment := by
  let title := "Parameter object type accepted by `" ++ a.name ++ "` algorithm"
  let code := ["type " ++ Settings.parameterType a.name ++ " = \x7b"] ++ fs.map Field.line ++
    ["\x7d;"]
  have hfirst : " * Parameter object type accepted by `" ++ a.name ++ "` algorithm" =
      " * " ++ title := by
    simp [title, ← String.toList_inj]
  have hlines : typeLines a fs = "/**" :: ([" * " ++ title, " *@type"] ++ fs.map Field.comment ++
      "*/" :: (code ++ [])) := by
    rw [typeLines, hfirst]
    simp [code]
  have hinner : ∀ l ∈ [" * " ++ title, " *@type"] ++ fs.map Field.comment,
      opensComment l = false ∧ closesComment l = false := by
    rw [List.forall_mem_append, List.forall_mem_cons, List.forall_mem_singleton,
      List.forall_mem_map]
    refine ⟨⟨not_mark (by decide) title, by decide⟩, fun f hf => ?_⟩
    rw [comment_eq]
    exact not_mark (by decide) _
  have hcode : ∀ l ∈ code, opensComment l = false := by
    intro l hl
    apply opensComment_eq_false
    simp only [code, List.mem_append, List.mem_singleton, List.mem_map] at hl
    rcases hl with (rfl | ⟨f, -, rfl⟩) | rfl
    · exact endsInCode_append (by decide)
    · exact endsInCode_append (by decide)
    · decide
  have htitle : ¬ EndsComment (" * " ++ title) := by
    rw [endsComment_marked (by decide)]
    exact not_endsComment (by simp [title, hname])
  have hmark : ¬ EndsComment " *@type" := by decide
  rw [hlines, commentsClose_comment (by decide) hinner (by decide), commentsClose_append hcode,
    and_iff_left commentsClose_nil]
  simp [htitle, hmark]

theorem star_not_mem_documented (i : Slot) : '*' ∉ (inputArgument i).documented.toList := by
  unfold inputArgument
  split
  · rename_i documented hc
    show '*' ∉ documented.toList
    unfold container? at hc
    split at hc <;> cases hc <;> decide
  · exact star_not_mem_wrapperType i.tag

theorem inputArgument_description (i : Slot) : (inputArgument i).description = i.description := by
  unfold inputArgument
  split <;> rfl

/-! ## Artifacts -/

variable {d : Descriptor} {x : Artifact}

theorem star_not_mem {name : String} (h : isIdentifier name = true) : '*' ∉ name.toList :=
  (isWord_of_isIdentifier h).not_mem (by decide)

theorem commentsClose_wrapperClass (hd : d.HasIdentifiers)
    (ha : Algorithm.ofDescriptor {} d = .ok a) (hx : emit .wrapper a {} = .ok x) :
    CommentsClose x.lines ↔ ¬ EndsComment d.summary ∧
      (∀ i ∈ d.inputs, ¬ EndsComment i.description) ∧
        ∀ o ∈ d.outputs, ¬ EndsComment o.description := by
  obtain ⟨-, ha⟩ := Algorithm.ofDescriptor_eq_ok.1 ha
  have hdescriptor : a.descriptor = d := by rw [ha]
  have hname : '*' ∉ a.name.toList := by
    rw [Algorithm.name, hdescriptor]
    exact star_not_mem hd.name
  have hinputs : ∀ i ∈ a.inputs.map inputArgument,
      '*' ∉ i.documented.toList ∧ '*' ∉ i.name.toList := by
    simp only [ha, List.forall_mem_map, inputArgument_name]
    exact fun i hi => ⟨star_not_mem_documented _, star_not_mem (hd.inputs i hi)⟩
  have houtputs : ∀ o ∈ a.outputs, '*' ∉ o.name.toList := by
    rw [ha]
    exact List.forall_mem_map.2 fun o ho => star_not_mem (hd.outputs o ho)
  rw [wrapperClass_lines hx, commentsClose_classLines, endsComment_summaryLine hname (by decide),
    methods_comments hname (by decide) hinputs houtputs, hdescriptor, ha]
  simp only [List.forall_mem_map, inputArgument_description]
  rfl

theorem commentsClose_parameterType (hd : d.IsValid) (ha : Algorithm.ofDescriptor {} d = .ok a)
    (hx : emit .parameterTypes a {} = .ok x) :
    CommentsClose x.lines ↔ ∀ p ∈ d.parameters, ¬ EndsComment p.description ∧
      (p.tag = .string → ¬ EndsComment p.default) := by
  have hids := hd.hasIdentifiers
  have hdescriptor := Algorithm.descriptor_of_ok ha
  have hcomment : ∀ p ∈ d.parameters, (¬ EndsComment (parameterField p).comment ↔
      ¬ EndsComment p.description ∧ (p.tag = .string → ¬ EndsComment p.default)) := by
    intro p hp
    rw [endsComment_comment (star_not_mem (hids.parameters p hp)) (hd.accepts hp)]
    tauto
  rw [parameterType_lines hx, Algorithm.hasParameters, Algorithm.parameters, hdescriptor]
  split
  · have hname : '*' ∉ a.name.toList := by
      rw [Algorithm.name, hdescriptor]
      exact star_not_mem hids.name
    rw [commentsClose_typeLines hname, List.forall_mem_map]
    exact forall₂_congr hcomment
  · rename_i hnone
    have hempty : d.parameters = [] := by
      simpa [Descriptor.hasParameters] using hnone
    simp [commentsClose_nil, hempty]

end Bindery.Wrapper

namespace Bindery

open Wrapper (CommentsClose EndsComment)

/-- With the usual settings, the comments of a valid algorithm's class are closed where they should
be exactly when neither its summary nor the description of an input or output has a star with a
slash behind it; and those of its parameter type when no description of a parameter has them, nor
a default that is a text. -/
theorem comments_close_iff {d : Descriptor} (hd : d.IsValid) {a : Algorithm}
    (ha : Algorithm.ofDescriptor {} d = .ok a) :
    (∀ x, emit .wrapper a {} = .ok x →
      (CommentsClose x.lines ↔ ¬ EndsComment d.summary ∧
        (∀ i ∈ d.inputs, ¬ EndsComment i.description) ∧
          ∀ o ∈ d.outputs, ¬ EndsComment o.description)) ∧
    ∀ x, emit .parameterTypes a {} = .ok x →
      (CommentsClose x.lines ↔ ∀ p ∈ d.parameters, ¬ EndsComment p.description ∧
        (p.tag = .string → ¬ EndsComment p.default)) :=
  ⟨fun _ hx => Wrapper.commentsClose_wrapperClass hd.hasIdentifiers ha hx,
    fun _ hx => Wrapper.commentsClose_parameterType hd ha hx⟩

/-- Stars and slashes that do not meet, and a pair in a later paragraph, which is no summary. -/
theorem comments_close_apart :
    let d : Descriptor := {
      name := "Ratio"
      description := "Divides a*b by c/d.\n\nSee */ below."
      inputs := [⟨"left", .real, "a * / b"⟩]
      outputs := [⟨"ratio", .real, "*'/"⟩]
      parameters := [⟨"mark", .string, "/*", "/**"⟩] }
    d.IsValid ∧ ∃ a x y, Algorithm.ofDescriptor {} d = .ok a ∧ emit .wrapper a {} = .ok x ∧
      emit .parameterTypes a {} = .ok y ∧ CommentsClose x.lines ∧ CommentsClose y.lines := by
  intro d
  have hd : d.IsValid := by decide
  obtain ⟨hclass, htypes⟩ := comments_close_iff hd rfl
  refine ⟨hd, _, _, _, rfl, rfl, rfl, (hclass _ rfl).2 ?_, (htypes _ rfl).2 ?_⟩
  · decide
  · decide

/-- A path among the texts of a valid descriptor cuts the comment of the class short where it is in
the description, and that of the parameter type where it is a default. -/
theorem comments_cut_short :
    ∃ d : Descriptor, d.IsValid ∧ ∃ a x y, Algorithm.ofDescriptor {} d = .ok a ∧
      emit .wrapper a {} = .ok x ∧ emit .parameterTypes a {} = .ok y ∧
      ¬ CommentsClose x.lines ∧ ¬ CommentsClose y.lines := by
  let d : Descriptor := {
    name := "Loader"
    description := "Loads audio/*/left.wav."
    outputs := [⟨"signal", .vectorReal, ""⟩]
    parameters := [⟨"path", .string, "audio/*/left.wav", ""⟩] }
  have hd : d.IsValid := by decide
  refine ⟨d, hd, _, _, _, rfl, rfl, rfl, ?_, ?_⟩
  · rw [Wrapper.commentsClose_wrapperClass hd.hasIdentifiers rfl rfl]
    decide
  · rw [Wrapper.commentsClose_parameterType hd rfl rfl]
    decide

end Bindery
