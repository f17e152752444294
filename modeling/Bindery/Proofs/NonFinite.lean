import Bindery.Proofs.VectorDefaults

/-!
# Reals that are not finite

A catalog may spell an infinity or the undefined value in any letter case, with a sign, and
inside vectors. Native code and the wrapper have spellings of their own, and only three of
the catalog's are changed into these. Every other one stands in the generated code as a
word that is nothing there.
-/

namespace Bindery

open Decimal (isReal isDecimal unsigned isNumeralChar)
open Text (isBlank trim trimmed)

/-! ## Words between marks -/

/-- Between the marks of a text there is nothing but words of some kind. -/
def IsMadeOf (isMark : Char → Bool) (IsWord : List Char → Prop) (text : List Char) : Prop :=
  ∀ w ∈ text.splitOnP isMark, w = [] ∨ IsWord w

/-- Marks part the items of lists from each other and no numeral in itself. -/
structure IsMarking (isMark : Char → Bool) : Prop where
  comma : isMark ',' = true
  blank : ∀ c, isBlank c = true → isMark c = true
  numeral : ∀ c, isNumeralChar c = true → isMark c = false

/-- The marks are these characters and the blanks. -/
def isMarkOf (marks : List Char) (c : Char) : Bool := marks.contains c || isBlank c

theorem isMarking_isMarkOf {marks : List Char} (hcomma : ',' ∈ marks)
    (hmarks : marks.all (!isNumeralChar ·) = true) : IsMarking (isMarkOf marks) where
  comma := by simp [isMarkOf, hcomma]
  blank c hc := by simp [isMarkOf, hc]
  numeral c hc := by
    rw [isMarkOf, Decimal.isBlank_of_isNumeralChar hc, Bool.or_false, ← Bool.not_eq_true,
      List.contains_iff_mem]
    intro hmem
    have hmark := List.all_eq_true.1 hmarks c hmem
    rw [hc] at hmark
    cases hmark

section

variable {isMark : Char → Bool} {IsWord : List Char → Prop} {cs ds inner after : List Char}
  {c opening closing : Char}

theorem isMadeOf_append_cons (hc : isMark c = true) :
    IsMadeOf isMark IsWord (cs ++ c :: ds) ↔
      IsMadeOf isMark IsWord cs ∧ IsMadeOf isMark IsWord ds := by
  simp only [IsMadeOf, List.splitOnP_append_cons cs ds hc, List.mem_append, or_imp, forall_and]

theorem isMadeOf_unmarked (h : ∀ c ∈ cs, isMark c = false) :
    IsMadeOf isMark IsWord cs ↔ cs = [] ∨ IsWord cs := by
  simp only [IsMadeOf, List.splitOnP_eq_singleton h, List.mem_singleton, forall_eq]

theorem isMadeOf_word (hcs : cs.all (!isMark ·) = true) (hword : IsWord cs) :
    IsMadeOf isMark IsWord cs := by
  rw [isMadeOf_unmarked (by simpa using hcs)]
  exact .inr hword

theorem isMadeOf_nil : IsMadeOf isMark IsWord [] := (isMadeOf_unmarked (by simp)).2 (.inl rfl)

theorem isMadeOf_marks (h : ∀ c ∈ cs, isMark c = true) : IsMadeOf isMark IsWord cs := by
  induction cs with
  | nil => exact isMadeOf_nil
  | cons c rest ih =>
      rw [List.forall_mem_cons] at h
      rw [← List.nil_append (c :: rest), isMadeOf_append_cons h.1]
      exact ⟨isMadeOf_nil, ih h.2⟩

theorem isMadeOf_append_marks (h : ∀ c ∈ ds, isMark c = true) :
    IsMadeOf isMark IsWord (cs ++ ds) ↔ IsMadeOf isMark IsWord cs := by
  cases ds with
  | nil => rw [List.append_nil]
  | cons c rest =>
      rw [List.forall_mem_cons] at h
      rw [isMadeOf_append_cons h.1, and_iff_left (isMadeOf_marks h.2)]

theorem isMadeOf_marks_append (h : ∀ c ∈ cs, isMark c = true) :
    IsMadeOf isMark IsWord (cs ++ ds) ↔ IsMadeOf isMark IsWord ds := by
  induction cs with
  | nil => rw [List.nil_append]
  | cons c rest ih =>
      rw [List.forall_mem_cons] at h
      rw [← ih h.2, List.cons_append, ← List.nil_append (c :: _), isMadeOf_append_cons h.1,
        and_iff_right isMadeOf_nil]

theorem isMadeOf_trim (hmark : IsMarking isMark) :
    IsMadeOf isMark IsWord (trim cs) ↔ IsMadeOf isMark IsWord cs := by
  obtain ⟨before, after, hcs, hbefore, hafter⟩ := Text.exists_trim cs
  have hsplit : IsMadeOf isMark IsWord (before ++ trim cs ++ after) ↔
      IsMadeOf isMark IsWord (trim cs) := by
    rw [isMadeOf_append_marks fun c hc => hmark.blank c (hafter c hc),
      isMadeOf_marks_append fun c hc => hmark.blank c (hbefore c hc)]
  rw [← hsplit, ← hcs]

theorem isMadeOf_intercalate (hc : isMark c = true) (pieces : List (List Char)) :
    IsMadeOf isMark IsWord ([c].intercalate pieces) ↔
      ∀ piece ∈ pieces, IsMadeOf isMark IsWord piece := by
  induction pieces with
  | nil => simpa using isMadeOf_nil
  | cons p rest ih =>
      cases rest with
      | nil => simp
      | cons q rest =>
          rw [List.intercalate_cons_cons, List.append_assoc, List.singleton_append,
            isMadeOf_append_cons hc, ih]
          exact List.forall_mem_cons.symm

theorem isMadeOf_numeral (hmark : IsMarking isMark) (h : isReal cs = true) :
    IsMadeOf isMark IsWord cs ↔ IsWord cs := by
  rw [isMadeOf_unmarked fun c hc => hmark.numeral c (Decimal.isNumeralChar_of_isReal h c hc),
    or_iff_right (Decimal.ne_nil_of_isReal h)]

/-- What stands between two marks is made of words when its items are. -/
theorem isMadeOf_items (hmark : IsMarking isMark)
    (hinner : ∀ w ∈ vectorItems inner, isReal w = true) :
    IsMadeOf isMark IsWord inner ↔ ∀ w ∈ vectorItems inner, IsWord w := by
  unfold vectorItems at hinner ⊢
  split
  · rename_i hempty
    have hblank := Text.trim_eq_nil_iff.1 (List.isEmpty_iff.1 hempty)
    simpa using isMadeOf_marks fun c hc => hmark.blank c (hblank c hc)
  · rename_i hempty
    rw [if_neg hempty, List.forall_mem_map] at hinner
    have hjoin : IsMadeOf isMark IsWord ([','].intercalate (inner.splitOn ',')) ↔
        ∀ piece ∈ inner.splitOn ',', IsMadeOf isMark IsWord piece :=
      isMadeOf_intercalate hmark.comma _
    rw [List.intercalate_splitOn] at hjoin
    rw [hjoin, List.forall_mem_map]
    refine forall₂_congr fun piece hpiece => ?_
    rw [← isMadeOf_trim hmark, isMadeOf_numeral hmark (hinner piece hpiece)]

theorem isMadeOf_listing (hmark : IsMarking isMark) (hopening : isMark opening = true)
    (hclosing : isMark closing = true) (hafter : ∀ c ∈ after, isBlank c = true)
    (hinner : ∀ w ∈ vectorItems inner, isReal w = true) :
    IsMadeOf isMark IsWord (cs ++ opening :: (inner ++ closing :: after)) ↔
      IsMadeOf isMark IsWord cs ∧ ∀ w ∈ vectorItems inner, IsWord w := by
  have hend : IsMadeOf isMark IsWord after :=
    isMadeOf_marks fun c hc => hmark.blank c (hafter c hc)
  rw [isMadeOf_append_cons hopening, isMadeOf_append_cons hclosing, and_iff_left hend,
    isMadeOf_items hmark hinner]

end

/-! ## Numerals and names -/

/-- A finite numeral with an optional sign. -/
def IsFinite (w : List Char) : Prop := isDecimal (unsigned w) = true

instance : DecidablePred IsFinite := fun _ => inferInstanceAs (Decidable (_ = _))

namespace Native

def isMark : Char → Bool := isMarkOf ['\x7b', '\x7d', ',']

/-- How native code writes what is not finite. -/
def limits : List (List Char) :=
  ["std::numeric_limits<float>::infinity()".toList,
    "std::numeric_limits<float>::quiet_NaN()".toList]

/-- A word of a native expression of reals. A vector without items has an empty initializer. -/
inductive IsWord : List Char → Prop
  | numeral {w : List Char} (h : IsFinite w) : IsWord w
  | limit {w : List Char} (h : unsigned w ∈ limits) : IsWord w
  | vector : IsWord "std::vector<float>".toList
  | empty : IsWord "std::vector<float>()".toList

theorem isMarking : IsMarking isMark := isMarking_isMarkOf (by decide) (by decide)

/-- A numeral of the catalog is a native word when it is finite and only then. -/
theorem isWord_iff_of_isReal {w : List Char} (h : isReal w = true) : IsWord w ↔ IsFinite w := by
  refine ⟨fun hw => ?_, .numeral⟩
  cases hw with
  | numeral hfinite => exact hfinite
  | limit hlimit =>
      have hnone : ∀ body ∈ limits,
          (isDecimal body || Decimal.nonFiniteNames.contains (body.map Char.toLower)) = false := by
        decide
      rw [isReal, hnone _ hlimit] at h
      cases h
  | vector => cases h
  | empty => cases h

end Native

namespace Script

def isMark : Char → Bool := isMarkOf ['[', ']', ',']

/-- How the wrapper writes what is not finite. -/
def globals : List (List Char) := ["Infinity".toList, "NaN".toList]

def IsWord (w : List Char) : Prop := IsFinite w ∨ unsigned w ∈ globals

theorem isMarking : IsMarking isMark := isMarking_isMarkOf (by decide) (by decide)

end Script

/-! ## Defaults -/

/-- The spellings of the catalog that are changed into those of each language. -/
def translated : List (List Char) := ["inf".toList, "-inf".toList, "nan".toList]

/-- The numerals that an accepted default of reals consists of. -/
def Parameter.numerals (p : Parameter) : List (List Char) :=
  match p.tag with
  | .vectorReal => ((betweenBrackets? (trim p.default.toList)).map vectorItems).getD []
  | _ => [trim p.default.toList]

theorem toList_trimmed (literal : String) : (trimmed literal).toList = trim literal.toList :=
  String.toList_ofList

theorem not_mem_translated {t : String} (hinf : t ≠ "inf") (hminus : t ≠ "-inf")
    (hnan : t ≠ "nan") : t.toList ∉ translated := by
  simp only [translated, List.mem_cons, List.not_mem_nil, or_false, String.toList_inj]
  rintro (h | h | h)
  · exact hinf h
  · exact hminus h
  · exact hnan h

/-- A translated spelling comes out as a word of native code, and any other as it is. -/
theorem Native.realDefault_cases (literal : String) :
    trim literal.toList ∈ translated ∧ (realDefault literal).toList.all (!isMark ·) = true ∧
        unsigned (realDefault literal).toList ∈ limits ∨
      trim literal.toList ∉ translated ∧ (realDefault literal).toList = trim literal.toList := by
  unfold realDefault
  rw [← toList_trimmed]
  split
  case h_4 hinf hminus hnan => exact .inr ⟨not_mem_translated hinf hminus hnan, rfl⟩
  all_goals
    rename_i heq
    rw [heq]
    exact .inl (by decide)

/-- The wrapper translates the same spellings. -/
theorem Script.realLiteral_cases (literal : String) :
    trim literal.toList ∈ translated ∧
        (Wrapper.realLiteral literal).toList.all (!isMark ·) = true ∧
        unsigned (Wrapper.realLiteral literal).toList ∈ globals ∨
      trim literal.toList ∉ translated ∧
        (Wrapper.realLiteral literal).toList = trim literal.toList := by
  unfold Wrapper.realLiteral
  rw [← toList_trimmed]
  split
  case h_4 hinf hminus hnan => exact .inr ⟨not_mem_translated hinf hminus hnan, rfl⟩
  all_goals
    rename_i heq
    rw [heq]
    exact .inl (by decide)

theorem real_spelled_iff {literal : String} (h : isReal (trim literal.toList) = true) :
    (IsMadeOf Native.isMark Native.IsWord (Native.realDefault literal).toList ↔
      IsFinite (trim literal.toList) ∨ trim literal.toList ∈ translated) ∧
    (IsMadeOf Script.isMark Script.IsWord (Wrapper.realLiteral literal).toList ↔
      IsFinite (trim literal.toList) ∨ unsigned (trim literal.toList) ∈ Script.globals ∨
        trim literal.toList ∈ translated) := by
  constructor
  · rcases Native.realDefault_cases literal with ⟨htranslated, hplain, hlimit⟩ | ⟨hother, hsame⟩
    · exact iff_of_true (isMadeOf_word hplain (.limit hlimit)) (.inr htranslated)
    · rw [hsame, isMadeOf_numeral Native.isMarking h, Native.isWord_iff_of_isReal h,
        or_iff_left hother]
  · rcases Script.realLiteral_cases literal with ⟨htranslated, hplain, hglobal⟩ | ⟨hother, hsame⟩
    · exact iff_of_true (isMadeOf_word hplain (.inr hglobal)) (.inr (.inr htranslated))
    · rw [hsame, isMadeOf_numeral Script.isMarking h, or_iff_left hother]
      exact Iff.rfl

theorem vector_spelled_iff {literal : String} (h : Tag.vectorReal.accepts literal = true) :
    ∃ inner, betweenBrackets? (trim literal.toList) = some inner ∧
    (IsMadeOf Native.isMark Native.IsWord ("std::vector<float>" ++
        if trimmed literal = "[]" then "()" else Native.braced literal).toList ↔
      ∀ w ∈ vectorItems inner, IsFinite w) ∧
    (IsMadeOf Script.isMark Script.IsWord literal.toList ↔
      ∀ w ∈ vectorItems inner, IsFinite w ∨ unsigned w ∈ Script.globals) := by
  obtain ⟨before, inner, after, hliteral, hbefore, hafter, hbrackets, hinner⟩ :=
    Tag.accepts_vectorReal h
  refine ⟨inner, hbrackets, ?_, ?_⟩
  · have hvector : IsMadeOf Native.isMark Native.IsWord "std::vector<float>".toList :=
      isMadeOf_word (by decide) .vector
    by_cases hempty : trimmed literal = "[]"
    · rw [if_pos hempty, vectorItems_of_trimmed_eq hempty hbrackets]
      exact iff_of_true (isMadeOf_word (by decide) .empty) (by simp)
    · have hfront : IsMadeOf Native.isMark Native.IsWord ("std::vector<float>".toList ++ before) :=
        (isMadeOf_append_marks fun c hc => Native.isMarking.blank c (hbefore c hc)).2 hvector
      rw [if_neg hempty, String.toList_append,
        toList_braced_of_isReal hliteral hbefore hafter hinner, ← List.append_assoc,
        isMadeOf_listing Native.isMarking (by decide) (by decide) hafter hinner,
        and_iff_right hfront]
      exact forall₂_congr fun w hw => Native.isWord_iff_of_isReal (hinner w hw)
  · have hfront : IsMadeOf Script.isMark Script.IsWord before :=
      isMadeOf_marks fun c hc => Script.isMarking.blank c (hbefore c hc)
    rw [hliteral, isMadeOf_listing Script.isMarking (by decide) (by decide) hafter hinner,
      and_iff_right hfront]
    exact Iff.rfl

/-- An accepted default of reals has nothing but words of native code in the declaration, and of the
wrapper in the wrapper, exactly when its numerals are finite or spelled in a way that is known
there. In vectors no spelling is translated. -/
theorem nonFinite_spelled_iff {p : Parameter} (htag : p.tag = .real ∨ p.tag = .vectorReal)
    (h : p.tag.accepts p.default = true) :
    ∃ type expression literal, DefaultStands p type expression literal ∧
      (IsMadeOf Native.isMark Native.IsWord expression.toList ↔
        ∀ w ∈ p.numerals, IsFinite w ∨ p.tag = .real ∧ w ∈ translated) ∧
      (IsMadeOf Script.isMark Script.IsWord literal.toList ↔
        ∀ w ∈ p.numerals, IsFinite w ∨ unsigned w ∈ Script.globals ∨
          p.tag = .real ∧ w ∈ translated) := by
  rcases htag with htag | htag
  · rw [htag] at h
    have hspelled := real_spelled_iff h
    refine ⟨_, _, _, .of_real htag, ?_⟩
    simpa [Parameter.numerals, htag] using hspelled
  · rw [htag] at h
    obtain ⟨inner, hinner, hspelled⟩ := vector_spelled_iff h
    refine ⟨_, _, _, .of_vectorReal htag, ?_⟩
    simpa [Parameter.numerals, htag, hinner] using hspelled

/-- A lower bound of minus infinity is spelled out in both files. -/
theorem nonFinite_spelled_lowest :
    let p : Parameter := ⟨"lowest", .real, " -inf", ""⟩
    p.tag.accepts p.default = true ∧ ∃ type expression literal,
      DefaultStands p type expression literal ∧
      IsMadeOf Native.isMark Native.IsWord expression.toList ∧
      IsMadeOf Script.isMark Script.IsWord literal.toList := by
  intro p
  have haccepts : p.tag.accepts p.default = true := by decide
  obtain ⟨type, expression, literal, hstands, hnative, hwrapper⟩ :=
    nonFinite_spelled_iff (p := p) (.inl rfl) haccepts
  exact ⟨haccepts, type, expression, literal, hstands, hnative.2 (by decide),
    hwrapper.2 (by decide)⟩

/-- Other spellings of infinity, and any spelling in a vector, stand in both files as words of their
own. -/
theorem nonFinite_leaks :
    let d : Descriptor := {
      name := "Clip"
      outputs := [⟨"signal", .vectorReal, ""⟩]
      parameters := [⟨"highest", .real, "infinity", ""⟩, ⟨"edges", .vectorReal, "[-inf, 0]", ""⟩] }
    d.IsValid ∧ ∃ a x y, Algorithm.ofDescriptor {} d = .ok a ∧ emit .declaration a {} = .ok x ∧
      emit .wrapper a {} = .ok y ∧
      "\t\tClip(const float highest=infinity, " ++
        "const std::vector<float>& edges=std::vector<float>\x7b-inf, 0\x7d);" ∈ x.lines ∧
      "    highest: infinity," ∈ y.lines ∧ "    edges: [-inf, 0]," ∈ y.lines ∧
      ¬ IsMadeOf Native.isMark Native.IsWord "infinity".toList ∧
      ¬ IsMadeOf Native.isMark Native.IsWord
          "std::vector<float>\x7b-inf, 0\x7d".toList ∧
      ¬ IsMadeOf Script.isMark Script.IsWord "infinity".toList ∧
      ¬ IsMadeOf Script.isMark Script.IsWord "[-inf, 0]".toList := by
  intro d
  have hreal : isReal (trim "infinity".toList) = true := by decide
  have hvector : Tag.vectorReal.accepts "[-inf, 0]" = true := by decide
  obtain ⟨hnative, hwrapper⟩ := real_spelled_iff hreal
  obtain ⟨inner, hinner, hnative', hwrapper'⟩ := vector_spelled_iff hvector
  have hitems : (betweenBrackets? (trim "[-inf, 0]".toList)).map vectorItems =
      some ["-inf".toList, "0".toList] := by decide
  rw [hinner, Option.map_some, Option.some_inj] at hitems
  rw [hitems] at hnative' hwrapper'
  refine ⟨by decide, _, _, _, rfl, rfl, rfl, by decide, by decide, by decide, fun h => ?_,
    fun h => ?_, fun h => ?_, fun h => ?_⟩
  · exact absurd (hnative.1 h) (by decide)
  · exact absurd (hnative'.1 h) (by decide)
  · exact absurd (hwrapper.1 h) (by decide)
  · exact absurd (hwrapper'.1 h) (by decide)

end Bindery
