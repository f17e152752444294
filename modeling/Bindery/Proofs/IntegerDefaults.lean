import Bindery.Proofs.Defaults
import Bindery.Proofs.Numerals
import Bindery.Proofs.WholeNumbers
import Mathlib.Data.List.Induction

/-!
# Integer defaults

An integer default stands in native code and in the wrapper as it is in the catalog. Each
language reads it by rules of its own: which blanks it skips, what a leading zero means, and
how many bits it keeps. The value of the catalog is what all three agree on exactly where
these rules do not matter.
-/

namespace Bindery

open Decimal (isDigit isDigits unsigned valueOf integer? isNumeralChar withSign hasLeadingZero
  isDigits_iff valueOf_eq_ofDigitChars Binary64)
open Text (isBlank trim trimBy)

/-! ## Reading integers -/

/-- Reads an optional sign and a literal without one, spaces around them aside. -/
def signed? (isSpace : Char → Bool) (literal? : List Char → Option Nat) (text : List Char) :
    Option Int :=
  (literal? (unsigned (trimBy isSpace text))).map (withSign (trimBy isSpace text))

namespace Native

/-- The white space of native code. -/
def isSpace (c : Char) : Bool := [' ', '\t', '\n', '\x0b', '\x0c', '\r'].contains c

def isOctalDigit (c : Char) : Bool := '0' ≤ c && c ≤ '7'

/-- An integer literal that is made of digits: they are octal behind a zero and decimal else. -/
def integerLiteral? : List Char → Option Nat
  | '0' :: rest => if rest.all isOctalDigit then some (Nat.ofDigitChars 8 rest 0) else none
  | digits => if isDigits digits then some (valueOf digits) else none

/-- Integers of 32 bits stay below this and not below its negative. -/
def integerLimit : Nat := Nat.pow 2 31

/-- The text is a literal with an optional sign, it denotes this integer, and 32 bits hold it. -/
def DenotesInteger (text : List Char) (n : Int) : Prop :=
  signed? isSpace integerLiteral? text = some n ∧ -(integerLimit : Int) ≤ n ∧ n < integerLimit

end Native

namespace Script

/-- The white space and the line ends of the wrapper's language. -/
def isSpace (c : Char) : Bool := (isBlank c && c != '\x85') || c == '\ufeff'

/-- A number literal that is made of digits: no other digit may follow a zero in front. -/
def integerLiteral? (digits : List Char) : Option Nat :=
  if isDigits digits && !hasLeadingZero digits then some (valueOf digits) else none

/-- The text is a number literal with an optional sign, and the number that it is rounded to is this
integer. -/
def DenotesInteger (text : List Char) (n : Int) : Prop :=
  ∃ m x, signed? isSpace integerLiteral? text = some m ∧ Binary64.round? m.natAbs 1 = some x ∧
    x.IsNat n.natAbs ∧ m.sign = n.sign

end Script

/-! ## Values of digits -/

theorem ofDigitChars_concat (base : Nat) (ds : List Char) (d : Char) :
    Nat.ofDigitChars base (ds ++ [d]) 0 =
      base * Nat.ofDigitChars base ds 0 + (d.toNat - '0'.toNat) := by
  rw [Nat.ofDigitChars_append, Nat.ofDigitChars_cons, Nat.ofDigitChars_nil]

theorem toNat_of_isOctalDigit {c : Char} (h : Native.isOctalDigit c = true) :
    48 ≤ c.toNat ∧ c.toNat < 56 := by
  rw [Native.isOctalDigit, Bool.and_eq_true, decide_eq_true_eq, decide_eq_true_eq] at h
  exact ⟨h.1, Nat.lt_succ_of_le h.2⟩

theorem isDigit_of_isOctalDigit {c : Char} (h : Native.isOctalDigit c = true) :
    isDigit c = true := by
  rw [Native.isOctalDigit, Bool.and_eq_true, decide_eq_true_eq, decide_eq_true_eq] at h
  rw [isDigit, Bool.and_eq_true, decide_eq_true_eq, decide_eq_true_eq]
  exact ⟨h.1, Char.le_trans h.2 (by decide)⟩

theorem isOctalDigit_of_toNat {c : Char} (h : isDigit c = true) (hlt : c.toNat < 56) :
    Native.isOctalDigit c = true := by
  rw [isDigit, Bool.and_eq_true, decide_eq_true_eq] at h
  rw [Native.isOctalDigit, Bool.and_eq_true, decide_eq_true_eq, decide_eq_true_eq]
  exact ⟨h.1, Nat.le_of_lt_succ hlt⟩

/-- Octal digits denote less than decimal ones, unless all but the last of them are zeros. -/
theorem octal_le_decimal (ds : List Char) :
    Nat.ofDigitChars 8 ds 0 ≤ Nat.ofDigitChars 10 ds 0 := by
  induction ds using List.reverseRecOn with
  | nil => exact Nat.le_refl 0
  | append_singleton ds d ih =>
      rw [ofDigitChars_concat, ofDigitChars_concat]
      omega

theorem octal_eq_decimal_iff {ds : List Char} (hdigits : ∀ c ∈ ds, isDigit c = true) :
    (∀ c ∈ ds, Native.isOctalDigit c = true) ∧
        Nat.ofDigitChars 8 ds 0 = Nat.ofDigitChars 10 ds 0 ↔
      Nat.ofDigitChars 10 ds 0 < 8 := by
  induction ds using List.reverseRecOn with
  | nil => simp
  | append_singleton ds d ih =>
      simp only [List.mem_append, List.mem_singleton, or_imp, forall_and, forall_eq] at hdigits ⊢
      have hle := octal_le_decimal ds
      have hzero : '0'.toNat = 48 := by decide
      rw [ofDigitChars_concat, ofDigitChars_concat, hzero]
      constructor
      · rintro ⟨⟨-, hd⟩, heq⟩
        have := toNat_of_isOctalDigit hd
        omega
      · intro hlt
        obtain ⟨hoctal, heq⟩ := (ih hdigits.1).2 (by omega)
        exact ⟨⟨hoctal, isOctalDigit_of_toNat hdigits.2 (by omega)⟩, by omega⟩

/-! ## What each language makes of digits -/

theorem valueOf_zero_cons (ds : List Char) : valueOf ('0' :: ds) = valueOf ds := rfl

/-- Native code reads the decimal value unless the digits have a zero in front and another base
matters. -/
theorem Native.integerLiteral?_iff {ds : List Char} (h : isDigits ds = true) :
    integerLiteral? ds = some (valueOf ds) ↔ (hasLeadingZero ds = true → valueOf ds < 8) := by
  unfold integerLiteral?
  split
  · rename_i rest
    have hrest : ∀ c ∈ rest, isDigit c = true := fun c hc =>
      (isDigits_iff.1 h).2 c (List.mem_cons_of_mem _ hc)
    have hvalue : (if rest.all isOctalDigit then some (Nat.ofDigitChars 8 rest 0) else none) =
        some (valueOf ('0' :: rest)) ↔ valueOf ('0' :: rest) < 8 := by
      rw [valueOf_zero_cons, valueOf_eq_ofDigitChars, Option.ite_none_right_eq_some,
        List.all_eq_true, Option.some_inj, octal_eq_decimal_iff hrest]
    rw [hvalue]
    cases rest with
    | nil => decide
    | cons d rest => simp [hasLeadingZero]
  · rename_i hzero
    have hplain : hasLeadingZero ds = false := by
      unfold hasLeadingZero
      split
      · exact absurd rfl (hzero _)
      · rfl
    simp [h, hplain]

/-- The wrapper reads the decimal value or nothing. -/
theorem Script.integerLiteral?_eq_some {ds : List Char} (h : isDigits ds = true) {k : Nat} :
    integerLiteral? ds = some k ↔ hasLeadingZero ds = false ∧ valueOf ds = k := by
  simp [integerLiteral?, h]

/-! ## Signs and spaces -/

/-- The rules of a language for literals that are made of digits. -/
structure IsReader (isSpace : Char → Bool) (literal? : List Char → Option Nat) : Prop where
  digits : ∀ ds k, literal? ds = some k → isDigits ds = true
  space : ∀ c, isSpace c = true → isNumeralChar c = false

theorem Native.isReader : IsReader isSpace integerLiteral? where
  digits ds k h := by
    unfold integerLiteral? at h
    split at h
    · rename_i rest
      rw [Option.ite_none_right_eq_some, List.all_eq_true] at h
      refine isDigits_iff.2 ⟨by simp, fun c hc => ?_⟩
      rcases List.mem_cons.1 hc with rfl | hc
      · decide
      · exact isDigit_of_isOctalDigit (h.1 c hc)
    · rw [Option.ite_none_right_eq_some] at h
      exact h.1
  space c hc := by
    rw [isSpace, List.contains_iff_mem] at hc
    have hspaces : ([' ', '\t', '\n', '\x0b', '\x0c', '\r'].all (!isNumeralChar ·)) = true := by
      decide
    simpa using List.all_eq_true.1 hspaces c hc

theorem Script.isReader : IsReader isSpace integerLiteral? where
  digits ds k h := by
    rw [integerLiteral?, Option.ite_none_right_eq_some, Bool.and_eq_true] at h
    exact h.1.1
  space c hc := by
    rw [isSpace, Bool.or_eq_true, Bool.and_eq_true, beq_iff_eq] at hc
    rcases hc with ⟨hblank, -⟩ | rfl
    · rw [← Bool.not_eq_true]
      intro hnumeral
      rw [Decimal.isBlank_of_isNumeralChar hnumeral] at hblank
      cases hblank
    · decide

variable {isSpace : Char → Bool} {literal? : List Char → Option Nat} {cs : List Char} {n : Int}

/-- What is read of an accepted default: nothing where it has a blank that is no white space of the
language, else what its digits are read as, with its sign. -/
theorem signed?_eq_some_iff (h : IsReader isSpace literal?) (hn : integer? (trim cs) = some n)
    {m : Int} :
    signed? isSpace literal? cs = some m ↔
      (∀ c ∈ cs, isBlank c = true → isSpace c = true) ∧
        ∃ k, literal? (unsigned (trim cs)) = some k ∧ withSign (trim cs) k = m := by
  have hcore := Decimal.isNumeralChar_of_unsigned (Decimal.integer?_eq_some hn).1
  rw [signed?, Option.map_eq_some_iff]
  by_cases hspaces : ∀ c ∈ cs, isBlank c = true → isSpace c = true
  · obtain ⟨before, after, hcs, hbefore, hafter⟩ := Text.exists_trim cs
    have htrim : trimBy isSpace (before ++ trim cs ++ after) = trim cs := by
      refine Text.trimBy_append (fun c hc => hspaces c ?_ (hbefore c hc))
        (fun c hc => hspaces c ?_ (hafter c hc)) fun c hc => ?_
      · rw [hcs]
        simp [hc]
      · rw [hcs]
        simp [hc]
      · rw [← Bool.not_eq_true]
        intro hspace
        have hnumeral := hcore c hc
        rw [h.space c hspace] at hnumeral
        cases hnumeral
    rw [← hcs] at htrim
    rw [htrim, and_iff_right hspaces]
  · -- a blank that the language does not skip stays among the digits
    refine iff_of_false ?_ fun hread => hspaces hread.1
    rintro ⟨k, hk, -⟩
    simp only [not_forall] at hspaces
    obtain ⟨c, hc, hblank, hspace⟩ := hspaces
    have hmem : c ∈ trimBy isSpace cs := (Text.skips_or_mem_trimBy hc).resolve_left hspace
    have hnumeral := Decimal.isNumeralChar_of_unsigned (h.digits _ _ hk) c hmem
    rw [Decimal.isBlank_of_isNumeralChar hnumeral] at hblank
    cases hblank

/-! ## Accepted defaults -/

theorem Native.denotesInteger_iff (hn : integer? (trim cs) = some n) :
    DenotesInteger cs n ↔ (∀ c ∈ cs, isBlank c = true → Native.isSpace c = true) ∧
      (hasLeadingZero (unsigned (trim cs)) = true → n.natAbs < 8) ∧
        -(integerLimit : Int) ≤ n ∧ n < integerLimit := by
  obtain ⟨hdigits, rfl, -⟩ := Decimal.integer?_eq_some hn
  have hread : (∃ k, integerLiteral? (unsigned (trim cs)) = some k ∧
      withSign (trim cs) k = withSign (trim cs) (valueOf (unsigned (trim cs)))) ↔
      (hasLeadingZero (unsigned (trim cs)) = true →
        (withSign (trim cs) (valueOf (unsigned (trim cs)))).natAbs < 8) := by
    rw [Decimal.natAbs_withSign, ← integerLiteral?_iff hdigits]
    simp only [Decimal.withSign_inj, exists_eq_right]
  rw [DenotesInteger, signed?_eq_some_iff isReader hn, hread, and_assoc]

theorem Script.forall_isSpace_iff (cs : List Char) :
    (∀ c ∈ cs, isBlank c = true → Script.isSpace c = true) ↔ '\x85' ∉ cs := by
  constructor
  · intro h hmem
    exact absurd (h _ hmem (by decide)) (by decide)
  · intro h c hc hblank
    have hne : c ≠ '\x85' := fun heq => h (heq ▸ hc)
    simp [isSpace, hblank, hne]

theorem log2_lt_of_le_wordLimit {k : Nat} (h : k ≤ Decimal.wordLimit) : k.log2 < 64 := by
  by_cases hzero : k = 0
  · rw [hzero]
    decide
  · exact (Nat.log2_lt hzero).2 (Nat.lt_of_le_of_lt h (by decide))

theorem Script.denotesInteger_iff (hn : integer? (trim cs) = some n) :
    DenotesInteger cs n ↔ '\x85' ∉ cs ∧ hasLeadingZero (unsigned (trim cs)) = false ∧
      ∃ m k, m < Binary64.mantissaLimit ∧ n.natAbs = m * Nat.pow 2 k := by
  obtain ⟨hdigits, hvalue, hsize⟩ := Decimal.integer?_eq_some hn
  rw [← forall_isSpace_iff, ← Binary64.exists_round?_isNat_iff (log2_lt_of_le_wordLimit hsize)]
  constructor
  · rintro ⟨m, x, hread, hround, hexact, -⟩
    obtain ⟨hspaces, k, hk, rfl⟩ := (signed?_eq_some_iff isReader hn).1 hread
    obtain ⟨hplain, rfl⟩ := (integerLiteral?_eq_some hdigits).1 hk
    rw [hvalue] at hround
    exact ⟨hspaces, hplain, x, hround, hexact⟩
  · rintro ⟨hspaces, hplain, x, hround, hexact⟩
    refine ⟨n, x, (signed?_eq_some_iff isReader hn).2 ⟨hspaces, valueOf (unsigned (trim cs)), ?_,
      hvalue⟩, hround, hexact, rfl⟩
    exact (integerLiteral?_eq_some hdigits).2 ⟨hplain, rfl⟩

/-- An accepted integer default keeps its value in native code exactly when its blanks are white
space there, other digits behind a zero leave it below eight, and 32 bits hold it. In the wrapper it
does so when its blanks are white space there too, no other digits stand behind a zero, and it is
not rounded to 53 bits. -/
theorem integerDefault_kept_iff {p : Parameter} (htag : p.tag = .integer)
    (h : p.tag.accepts p.default = true) :
    ∃ n expression literal, integer? (trim p.default.toList) = some n ∧
      DefaultStands p "const int" expression literal ∧
      (Native.DenotesInteger expression.toList n ↔
        (∀ c ∈ p.default.toList, isBlank c = true → Native.isSpace c = true) ∧
          (hasLeadingZero (unsigned (trim p.default.toList)) = true → n.natAbs < 8) ∧
          -(Native.integerLimit : Int) ≤ n ∧ n < Native.integerLimit) ∧
      (Script.DenotesInteger literal.toList n ↔
        '\x85' ∉ p.default.toList ∧ hasLeadingZero (unsigned (trim p.default.toList)) = false ∧
          ∃ m k, m < Binary64.mantissaLimit ∧ n.natAbs = m * Nat.pow 2 k) := by
  rw [htag, Tag.accepts, Option.isSome_iff_exists] at h
  obtain ⟨n, hn⟩ := h
  exact ⟨n, p.default, p.default, hn, .of_integer htag, Native.denotesInteger_iff hn,
    Script.denotesInteger_iff hn⟩

/-- A frame size with blanks around it keeps its value in both files. -/
theorem integerDefault_kept_frameSize :
    let p : Parameter := ⟨"frameSize", .integer, " -2048\n", ""⟩
    p.tag = .integer ∧ p.tag.accepts p.default = true ∧ ∃ n expression literal,
      integer? (trim p.default.toList) = some n ∧
      DefaultStands p "const int" expression literal ∧
      Native.DenotesInteger expression.toList n ∧ Script.DenotesInteger literal.toList n := by
  intro p
  have haccepts : p.tag.accepts p.default = true := by decide
  obtain ⟨n, expression, literal, hn, hstands, hnative, hscript⟩ :=
    integerDefault_kept_iff (p := p) rfl haccepts
  have hvalue : integer? (trim p.default.toList) = some (-2048) := by decide
  obtain rfl : -2048 = n := Option.some_inj.1 (hvalue.symm.trans hn)
  have hblanks : (p.default.toList.all fun c => !isBlank c || Native.isSpace c) = true := by decide
  have hspaces : ∀ c ∈ p.default.toList, isBlank c = true → Native.isSpace c = true := by
    intro c hc hblank
    simpa [hblank] using List.all_eq_true.1 hblanks c hc
  exact ⟨rfl, haccepts, -2048, expression, literal, hn, hstands,
    hnative.2 ⟨hspaces, by decide, by decide, by decide⟩,
    hscript.2 ⟨by decide, by decide, 2048, 0, by decide, rfl⟩⟩

/-- A zero in front makes eight of ten in native code, and is no number literal in the wrapper. What
has more than 32 bits is declared all the same, and what has more than 53 is rounded. -/
theorem integerDefault_lost :
    let d : Descriptor := {
      name := "Frames"
      outputs := [⟨"frame", .vectorReal, ""⟩]
      parameters := [⟨"size", .integer, "010", ""⟩, ⟨"limit", .integer, "9007199254740993", ""⟩] }
    d.IsValid ∧ ∃ a x y, Algorithm.ofDescriptor {} d = .ok a ∧ emit .declaration a {} = .ok x ∧
      emit .wrapper a {} = .ok y ∧
      "\t\tFrames(const int size=010, const int limit=9007199254740993);" ∈ x.lines ∧
      "    size: 010," ∈ y.lines ∧ "    limit: 9007199254740993," ∈ y.lines ∧
      integer? "010".toList = some 10 ∧
      signed? Native.isSpace Native.integerLiteral? "010".toList = some 8 ∧
      signed? Script.isSpace Script.integerLiteral? "010".toList = none ∧
      integer? "9007199254740993".toList = some 9007199254740993 ∧
      ¬ Native.DenotesInteger "9007199254740993".toList 9007199254740993 ∧
      ¬ Script.DenotesInteger "9007199254740993".toList 9007199254740993 := by
  intro d
  have hlimit : integer? (trim "9007199254740993".toList) = some 9007199254740993 := by decide
  refine ⟨by decide, _, _, _, rfl, rfl, rfl, by decide, by decide, by decide, by decide, by decide,
    by decide, by decide, fun h => ?_, fun h => ?_⟩
  · exact absurd h.2.2 (by decide)
  · obtain ⟨-, -, m, k, hm, hvalue⟩ := (Script.denotesInteger_iff hlimit).1 h
    have hodd : (9007199254740993 : Int).natAbs = 9007199254740993 := rfl
    have hbits : Binary64.mantissaLimit = 9007199254740992 := by decide
    rw [hodd, Nat.pow_eq] at hvalue
    cases k with
    | zero =>
        rw [Nat.pow_zero, Nat.mul_one] at hvalue
        omega
    | succ k =>
        rw [Nat.pow_succ, ← Nat.mul_assoc] at hvalue
        omega

end Bindery
