import Bindery.Catalog.Default
import Bindery.Proofs.Reading
import Mathlib.Data.List.TakeWhile

/-!
# Numerals and their characters

Integer numerals are digits with an optional sign, and real numerals are made of digits,
signs, points and letters. No blank, comma or bracket is among these, so that the items of a
list literal are found where it is cut at its commas, whatever blanks stand around them, and
no bracket is hidden between its outer ones.
-/

namespace Bindery

namespace Text

/-! ## Blanks at the ends -/

/-- The characters from the first to the last that is not skipped. -/
def trimBy (skips : Char → Bool) (cs : List Char) : List Char :=
  ((cs.dropWhile skips).reverse.dropWhile skips).reverse

variable {skips : Char → Bool} {cs before after : List Char}

theorem exists_trimBy (skips : Char → Bool) (cs : List Char) :
    ∃ before after, cs = before ++ trimBy skips cs ++ after ∧
      (∀ c ∈ before, skips c = true) ∧ ∀ c ∈ after, skips c = true := by
  have hfirst := (List.takeWhile_append_dropWhile (p := skips) (l := cs)).symm
  have hlast := congrArg List.reverse (List.takeWhile_append_dropWhile (p := skips)
    (l := (cs.dropWhile skips).reverse)).symm
  rw [List.reverse_reverse, List.reverse_append] at hlast
  refine ⟨cs.takeWhile skips, ((cs.dropWhile skips).reverse.takeWhile skips).reverse, ?_,
    fun c hc => List.mem_takeWhile_imp hc, fun c hc =>
      List.mem_takeWhile_imp (List.mem_reverse.1 hc)⟩
  rw [List.append_assoc, trimBy, ← hlast, ← hfirst]

theorem skips_or_mem_trimBy {c : Char} (hc : c ∈ cs) : skips c = true ∨ c ∈ trimBy skips cs := by
  obtain ⟨before, after, hcs, hbefore, hafter⟩ := exists_trimBy skips cs
  rw [hcs, List.mem_append, List.mem_append] at hc
  rcases hc with (hc | hc) | hc
  · exact .inl (hbefore c hc)
  · exact .inr hc
  · exact .inl (hafter c hc)

theorem trimBy_append (hbefore : ∀ c ∈ before, skips c = true)
    (hafter : ∀ c ∈ after, skips c = true) (hcs : ∀ c ∈ cs, skips c = false) :
    trimBy skips (before ++ cs ++ after) = cs := by
  have hkeep : ∀ l : List Char, (∀ c ∈ l, skips c = false) → l.dropWhile skips = l := by
    intro l hl
    cases l with
    | nil => rfl
    | cons c rest => exact List.dropWhile_cons_of_neg (by simp [hl c List.mem_cons_self])
  cases cs with
  | nil =>
      have hall : ∀ c ∈ before ++ [] ++ after, skips c = true := by
        simpa [or_imp, forall_and] using ⟨hbefore, hafter⟩
      rw [trimBy, List.dropWhile_eq_nil_iff.2 hall]
      rfl
  | cons c rest =>
      have hc : ¬ skips c = true := by simp [hcs c List.mem_cons_self]
      have hafter' : ∀ c ∈ after.reverse, skips c = true := by simpa using hafter
      have hrest : ∀ d ∈ (c :: rest).reverse, skips d = false := by
        simpa only [List.mem_reverse] using hcs
      rw [trimBy, List.append_assoc, List.dropWhile_append_of_pos hbefore, List.cons_append,
        List.dropWhile_cons_of_neg hc, ← List.cons_append, List.reverse_append,
        List.dropWhile_append_of_pos hafter', hkeep _ hrest, List.reverse_reverse]

theorem exists_trim (cs : List Char) : ∃ before after, cs = before ++ trim cs ++ after ∧
    (∀ c ∈ before, isBlank c = true) ∧ ∀ c ∈ after, isBlank c = true :=
  exists_trimBy isBlank cs

theorem isBlank_or_mem_trim {c : Char} (hc : c ∈ cs) : isBlank c = true ∨ c ∈ trim cs :=
  skips_or_mem_trimBy hc

theorem trim_eq_nil_iff : trim cs = [] ↔ ∀ c ∈ cs, isBlank c = true := by
  constructor
  · intro h c hc
    simpa [h] using isBlank_or_mem_trim hc
  · intro h
    rw [trim, List.dropWhile_eq_nil_iff.2 h]
    rfl

/-- Where no character is blank, nothing is taken off. -/
theorem trim_eq_self_of_forall (h : ∀ c ∈ cs, isBlank c = false) : trim cs = cs :=
  trim_eq_self (fun c hc => h c (List.mem_of_mem_head? hc))
    fun c hc => h c (List.mem_of_mem_getLast? hc)

theorem trim_cons_of_isBlank {c : Char} (hc : isBlank c = true) : trim (c :: cs) = trim cs := by
  rw [trim, List.dropWhile_cons_of_pos hc, trim]

end Text

open Text (isBlank trim)

namespace Decimal

/-! ## Real numerals -/

/-- A character that a real numeral may have: of its digits, its marks, or the letters of names. -/
def isNumeralChar (c : Char) : Bool :=
  isDigit c || ['+', '-', '.', 'e', 'E'].contains c ||
    ['i', 'n', 'f', 't', 'y', 'a'].contains c.toLower

theorem isBlank_ofNat_of_isNumeralChar :
    ∀ n < 128, isNumeralChar (Char.ofNat n) = true → isBlank (Char.ofNat n) = false := by
  decide +kernel

variable {cs : List Char}

theorem mem_unsigned {c : Char} (hc : c ∈ cs) : c = '+' ∨ c = '-' ∨ c ∈ unsigned cs := by
  unfold unsigned
  split
  · exact (List.mem_cons.1 hc).imp id .inr
  · exact .inr ((List.mem_cons.1 hc).imp id id)
  · exact .inr (.inr hc)

theorem isNumeralChar_of_isExponentPart (h : isExponentPart cs = true) :
    ∀ c ∈ cs, isNumeralChar c = true := by
  cases cs with
  | nil => simp
  | cons mark rest =>
      simp only [isExponentPart, isDigits, Bool.and_eq_true, Bool.or_eq_true, beq_iff_eq,
        List.all_eq_true] at h
      intro c hc
      rcases List.mem_cons.1 hc with rfl | hc
      · rcases h.1 with rfl | rfl <;> decide
      · rcases mem_unsigned hc with rfl | rfl | hc
        · decide
        · decide
        · simp [isNumeralChar, h.2.2 c hc]

theorem isNumeralChar_of_isDecimal (h : isDecimal cs = true) :
    ∀ c ∈ cs, isNumeralChar c = true := by
  have hdigits : ∀ ds : List Char, ∀ c ∈ ds.takeWhile isDigit, isNumeralChar c = true := by
    intro ds c hc
    simp [isNumeralChar, List.mem_takeWhile_imp hc]
  have hrest : ∀ c ∈ cs.dropWhile isDigit, isNumeralChar c = true := by
    unfold isDecimal at h
    split at h
    · rename_i rest hdrop
      rw [Bool.and_eq_true] at h
      intro c hc
      rw [hdrop] at hc
      rcases List.mem_cons.1 hc with rfl | hc
      · decide
      · rw [← List.takeWhile_append_dropWhile (p := isDigit) (l := rest)] at hc
        rcases List.mem_append.1 hc with hc | hc
        · exact hdigits rest c hc
        · exact isNumeralChar_of_isExponentPart h.2 c hc
    · rw [Bool.and_eq_true] at h
      exact isNumeralChar_of_isExponentPart h.2
  intro c hc
  rw [← List.takeWhile_append_dropWhile (p := isDigit) (l := cs)] at hc
  rcases List.mem_append.1 hc with hc | hc
  · exact hdigits cs c hc
  · exact hrest c hc

theorem isNumeralChar_of_isReal (h : isReal cs = true) : ∀ c ∈ cs, isNumeralChar c = true := by
  have hbody : ∀ c ∈ unsigned cs, isNumeralChar c = true := by
    rw [isReal, Bool.or_eq_true, List.contains_iff_mem] at h
    rcases h with h | h
    · exact isNumeralChar_of_isDecimal h
    · intro c hc
      have hletters : (nonFiniteNames.all fun name =>
          name.all (['i', 'n', 'f', 't', 'y', 'a'].contains ·)) = true := by decide
      have hlower :=
        List.all_eq_true.1 (List.all_eq_true.1 hletters _ h) _ (List.mem_map_of_mem hc)
      rw [isNumeralChar, Bool.or_eq_true]
      exact .inr hlower
  intro c hc
  rcases mem_unsigned hc with rfl | rfl | hc
  · decide
  · decide
  · exact hbody c hc

theorem toNat_lt_of_isNumeralChar {c : Char} (h : isNumeralChar c = true) : c.toNat < 128 := by
  rw [isNumeralChar, Bool.or_eq_true, Bool.or_eq_true, List.contains_iff_mem,
    List.contains_iff_mem] at h
  rcases h with (h | h) | h
  · rw [isDigit, Bool.and_eq_true, decide_eq_true_eq, decide_eq_true_eq] at h
    exact Nat.lt_of_le_of_lt (show c.toNat ≤ 57 from h.2) (by decide)
  · have hmarks : (['+', '-', '.', 'e', 'E'].all fun d => d.toNat < 128) = true := by decide
    exact of_decide_eq_true (List.all_eq_true.1 hmarks c h)
  · unfold Char.toLower at h
    split at h
    · rename_i hupper
      exact Nat.lt_of_le_of_lt (show c.toNat ≤ 90 from hupper.2) (by decide)
    · have hletters : (['i', 'n', 'f', 't', 'y', 'a'].all fun d => d.toNat < 128) = true := by
        decide
      exact of_decide_eq_true (List.all_eq_true.1 hletters c h)

theorem isBlank_of_isNumeralChar {c : Char} (h : isNumeralChar c = true) : isBlank c = false := by
  have hc := isBlank_ofNat_of_isNumeralChar c.toNat (toNat_lt_of_isNumeralChar h)
  rw [Char.ofNat_toNat] at hc
  exact hc h

theorem ne_nil_of_isReal (h : isReal cs = true) : cs ≠ [] := by
  rintro rfl
  cases h

/-- A numeral has nothing to trim. -/
theorem trim_of_isReal (h : isReal cs = true) : trim cs = cs :=
  Text.trim_eq_self_of_forall fun c hc =>
    isBlank_of_isNumeralChar (isNumeralChar_of_isReal h c hc)

/-! ## Integer numerals -/

/-- Other digits follow a zero in front. -/
def hasLeadingZero : List Char → Bool
  | '0' :: _ :: _ => true
  | _ => false

/-- The integer of this size with the sign that the characters begin with. -/
def withSign (cs : List Char) (k : Nat) : Int := if cs.head? = some '-' then -(k : Int) else k

theorem isDigits_iff {ds : List Char} :
    isDigits ds = true ↔ ds ≠ [] ∧ ∀ c ∈ ds, isDigit c = true := by
  simp [isDigits]

theorem unsigned_cons_of_isDigit {d : Char} (hd : isDigit d = true) (cs : List Char) :
    unsigned (d :: cs) = d :: cs := by
  rw [unsigned.eq_def]
  split
  · rename_i heq
    cases heq
    cases hd
  · rename_i heq
    cases heq
    cases hd
  · rfl

theorem valueOf_eq_ofDigitChars (digits : List Char) :
    valueOf digits = Nat.ofDigitChars 10 digits 0 := by
  rw [Nat.ofDigitChars_eq_foldl]
  rfl

theorem withSign_inj {k l : Nat} : withSign cs k = withSign cs l ↔ k = l := by
  unfold withSign
  split <;> omega

theorem natAbs_withSign (cs : List Char) (k : Nat) : (withSign cs k).natAbs = k := by
  unfold withSign
  split <;> omega

/-- Digits with an optional sign. -/
theorem integer?_eq_some {n : Int} (h : integer? cs = some n) :
    isDigits (unsigned cs) = true ∧ withSign cs (valueOf (unsigned cs)) = n ∧
      n.natAbs ≤ wordLimit := by
  simp only [integer?, Option.ite_none_right_eq_some, Option.some_inj] at h
  obtain ⟨hdigits, hrange, rfl⟩ := h
  refine ⟨hdigits, rfl, ?_⟩
  omega

theorem isNumeralChar_of_unsigned (h : isDigits (unsigned cs) = true) :
    ∀ c ∈ cs, isNumeralChar c = true := by
  intro c hc
  rcases mem_unsigned hc with rfl | rfl | hc
  · decide
  · decide
  · simp [isNumeralChar, (isDigits_iff.1 h).2 c hc]

end Decimal

open Decimal (isReal isNumeralChar)

/-! ## Items of list literals -/

variable {cs inner : List Char}

theorem betweenBrackets?_eq_some :
    betweenBrackets? cs = some inner ↔ cs = '[' :: (inner ++ [']']) := by
  unfold betweenBrackets?
  split
  · rename_i rest
    rw [List.cons_inj_right]
    split
    · rename_i hlast
      obtain ⟨front, rfl⟩ := List.getLast?_eq_some_iff.1 hlast
      simp
    · rename_i hlast
      constructor
      · nofun
      · rintro rfl
        simp at hlast
  · rename_i hopen
    constructor
    · nofun
    · rintro rfl
      exact absurd rfl (hopen _)

/-- Every character between the brackets is in an item or stands around one. -/
theorem mem_vectorItems {c : Char} (hc : c ∈ inner) :
    isBlank c = true ∨ c = ',' ∨ ∃ w ∈ vectorItems inner, c ∈ w := by
  unfold vectorItems
  split
  · rename_i hempty
    exact .inl (Text.trim_eq_nil_iff.1 (List.isEmpty_iff.1 hempty) c hc)
  · have hjoin : [','].intercalate (inner.splitOn ',') = inner := List.intercalate_splitOn ','
    rw [← hjoin] at hc
    rcases eq_or_mem_of_mem_intercalate hc with hcomma | ⟨piece, hpiece, hmem⟩
    · exact .inr (.inl hcomma)
    · rcases Text.isBlank_or_mem_trim hmem with hblank | htrim
      · exact .inl hblank
      · exact .inr (.inr ⟨trim piece, List.mem_map_of_mem hpiece, htrim⟩)

/-- No list of numerals has this character: it is no blank and no comma, and in no numeral. -/
def isForeign (c : Char) : Bool := !isBlank c && c != ',' && !isNumeralChar c

theorem isBlank_of_isForeign {c : Char} (h : isForeign c = true) : isBlank c = false := by
  simp only [isForeign, Bool.and_eq_true, Bool.not_eq_true'] at h
  exact h.1.1

theorem not_mem_of_isForeign {c : Char} (hc : isForeign c = true)
    (hinner : ∀ w ∈ vectorItems inner, isReal w = true) : c ∉ inner := by
  simp only [isForeign, Bool.and_eq_true, Bool.not_eq_true', bne_iff_ne] at hc
  obtain ⟨⟨hblank, hcomma⟩, hnumeral⟩ := hc
  intro hmem
  rcases mem_vectorItems hmem with hb | rfl | ⟨w, hw, hmem⟩
  · rw [hblank] at hb
    cases hb
  · exact hcomma rfl
  · rw [Decimal.isNumeralChar_of_isReal (hinner w hw) c hmem] at hnumeral
    cases hnumeral

/-- An accepted list of reals: brackets with nothing but blanks outside, and numerals inside. -/
theorem Tag.accepts_vectorReal {literal : String} (h : vectorReal.accepts literal = true) :
    ∃ before inner after, literal.toList = before ++ '[' :: (inner ++ ']' :: after) ∧
      (∀ c ∈ before, isBlank c = true) ∧ (∀ c ∈ after, isBlank c = true) ∧
      betweenBrackets? (trim literal.toList) = some inner ∧
      ∀ w ∈ vectorItems inner, isReal w = true := by
  rw [accepts] at h
  cases hbrackets : betweenBrackets? (trim literal.toList) with
  | none => simp [hbrackets] at h
  | some inner =>
      simp only [hbrackets, List.all_eq_true] at h
      obtain ⟨before, after, hliteral, hbefore, hafter⟩ := Text.exists_trim literal.toList
      refine ⟨before, inner, after, ?_, hbefore, hafter, rfl, h⟩
      rw [hliteral, betweenBrackets?_eq_some.1 hbrackets]
      simp

/-! ## Accepted literals -/

/-- A character of the literals that are not texts: of blanks, of words and numerals, or a mark of
lists. -/
def isExpressionChar (c : Char) : Bool :=
  isBlank c || continuesIdentifier c || ['+', '-', '.', ',', '[', ']'].contains c

theorem isExpressionChar_ofNat_of_isNumeralChar :
    ∀ n < 128, isNumeralChar (Char.ofNat n) = true →
      isExpressionChar (Char.ofNat n) = true := by
  decide +kernel

theorem isExpressionChar_of_isNumeralChar {c : Char} (h : isNumeralChar c = true) :
    isExpressionChar c = true := by
  have hsmall := Decimal.toNat_lt_of_isNumeralChar h
  have hchar := isExpressionChar_ofNat_of_isNumeralChar c.toNat hsmall
  rw [Char.ofNat_toNat] at hchar
  exact hchar h

theorem isExpressionChar_of_isBlank {c : Char} (h : isBlank c = true) :
    isExpressionChar c = true := by
  simp [isExpressionChar, h]

/-- Only texts may have other characters. -/
theorem Tag.isExpressionChar_of_accepts {tag : Tag} {literal : String} (hstring : tag ≠ .string)
    (h : tag.accepts literal = true) : ∀ c ∈ literal.toList, isExpressionChar c = true := by
  intro c hc
  cases tag with
  | string => exact absurd rfl hstring
  | real =>
      rcases Text.isBlank_or_mem_trim hc with hblank | hmem
      · exact isExpressionChar_of_isBlank hblank
      · exact isExpressionChar_of_isNumeralChar (Decimal.isNumeralChar_of_isReal h c hmem)
  | integer =>
      rcases Text.isBlank_or_mem_trim hc with hblank | hmem
      · exact isExpressionChar_of_isBlank hblank
      · obtain ⟨n, hn⟩ := Option.isSome_iff_exists.1 h
        have hdigits := (Decimal.integer?_eq_some hn).1
        exact isExpressionChar_of_isNumeralChar
          (Decimal.isNumeralChar_of_unsigned hdigits c hmem)
  | bool =>
      have hcases : literal = "true" ∨ literal = "false" := by simpa [accepts] using h
      rcases hcases with rfl | rfl
      · exact List.all_eq_true.1 (show "true".toList.all isExpressionChar = true by decide) c hc
      · exact List.all_eq_true.1 (show "false".toList.all isExpressionChar = true by decide) c hc
  | vectorReal =>
      obtain ⟨before, inner, after, hliteral, hbefore, hafter, -, hinner⟩ := accepts_vectorReal h
      simp only [hliteral, List.mem_append, List.mem_cons] at hc
      rcases hc with hc | rfl | hc | rfl | hc
      · exact isExpressionChar_of_isBlank (hbefore c hc)
      · decide
      · rcases mem_vectorItems hc with hblank | rfl | ⟨w, hw, hmem⟩
        · exact isExpressionChar_of_isBlank hblank
        · decide
        · exact isExpressionChar_of_isNumeralChar
            (Decimal.isNumeralChar_of_isReal (hinner w hw) c hmem)
      · decide
      · exact isExpressionChar_of_isBlank (hafter c hc)
  | _ => cases h

end Bindery
