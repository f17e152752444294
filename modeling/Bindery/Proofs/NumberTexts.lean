import Bindery.Json.Number
import Bindery.Proofs.Numerals

/-!
# Texts of JSON numbers

A number of a catalog is printed as JSON allows numbers to be: digits without a zero in
front of others, then a point with digits and an exponent where they are needed. A real
number always shows one of the two, so that no reader takes it for an integer.
-/

namespace Bindery

open Decimal

/-! ## Decimal digits -/

/-- Digits, of which none stands behind a zero in front. -/
def IsWholeNumeral (ds : List Char) : Prop := isDigits ds = true ∧ hasLeadingZero ds = false

theorem hasLeadingZero_singleton (d : Char) : hasLeadingZero [d] = false := by
  simp [hasLeadingZero]

theorem isWholeNumeral_zero : IsWholeNumeral ['0'] := ⟨rfl, rfl⟩

theorem isWholeNumeral_cons {d : Char} {ds : List Char} (hne : d ≠ '0')
    (h : ∀ c ∈ d :: ds, isDigit c = true) : IsWholeNumeral (d :: ds) := by
  refine ⟨isDigits_iff.2 ⟨by simp, h⟩, ?_⟩
  unfold hasLeadingZero
  split
  · rename_i heq
    cases heq
    exact absurd rfl hne
  · rfl

theorem isDigit_of_mem_toDigits {n : Nat} {c : Char} (hc : c ∈ Nat.toDigits 10 n) :
    isDigit c = true := by
  have h := Nat.isDigit_of_mem_toDigits (by decide) (by decide) hc
  rw [Char.isDigit, Bool.and_eq_true, decide_eq_true_eq, decide_eq_true_eq] at h
  rw [isDigit, Bool.and_eq_true, decide_eq_true_eq, decide_eq_true_eq]
  exact h

theorem isDigit_of_mem_replicate {k : Nat} : ∀ c ∈ List.replicate k '0', isDigit c = true := by
  intro c hc
  rw [List.eq_of_mem_replicate hc]
  decide

theorem exists_toDigits_eq_cons {n : Nat} (hn : n ≠ 0) :
    ∃ d ds, Nat.toDigits 10 n = d :: ds ∧ d ≠ '0' := by
  induction n using Nat.strong_induction_on with
  | _ n ih =>
      rw [Nat.toDigits_eq_if (by decide)]
      split
      · rename_i hlt
        refine ⟨n.digitChar, [], rfl, ?_⟩
        exact (show ∀ k < 10, k ≠ 0 → k.digitChar ≠ '0' by decide) n hlt hn
      · obtain ⟨d, ds, hdigits, hd⟩ := ih (n / 10) (by omega) (by omega)
        exact ⟨d, ds ++ [(n % 10).digitChar], by rw [hdigits]; rfl, hd⟩

theorem isWholeNumeral_toDigits (n : Nat) : IsWholeNumeral (Nat.toDigits 10 n) := by
  by_cases hn : n = 0
  · rw [hn, Nat.toDigits_zero]
    exact isWholeNumeral_zero
  · obtain ⟨d, ds, hdigits, hd⟩ := exists_toDigits_eq_cons hn
    have hall : ∀ c ∈ d :: ds, isDigit c = true := by
      rw [← hdigits]
      exact fun c hc => isDigit_of_mem_toDigits hc
    rw [hdigits]
    exact isWholeNumeral_cons hd hall

theorem valueOf_toDigits (n : Nat) : valueOf (Nat.toDigits 10 n) = n := by
  rw [valueOf_eq_ofDigitChars, Nat.ofDigitChars_ten_toDigits]

namespace Json

/-! ## Spellings -/

namespace Spelling

def fractionText : Option (List Char) → List Char
  | none => []
  | some ds => '.' :: ds

def exponentText : Option (Bool × List Char) → List Char
  | none => []
  | some (negative, ds) => 'e' :: (if negative then '-' else '+') :: ds

/-- The text without its sign. -/
def body (s : Spelling) : List Char :=
  s.whole ++ (fractionText s.fraction ++ exponentText s.exponent)

def text (s : Spelling) : List Char := if s.negative then '-' :: s.body else s.body

/-- As JSON has it: no needless zero stands in front, and digits follow a point. -/
structure IsPlain (s : Spelling) : Prop where
  whole : IsWholeNumeral s.whole
  fraction : ∀ ds ∈ s.fraction, isDigits ds = true
  exponent : ∀ e ∈ s.exponent, IsWholeNumeral e.2

/-- There is neither a point nor an exponent. -/
def IsInteger (s : Spelling) : Prop := s.fraction = none ∧ s.exponent = none

variable {s : Spelling} {ds rest : List Char}

theorem takeWhile_isDigit_append (hds : isDigits ds = true) (hrest : rest.takeWhile isDigit = []) :
    (ds ++ rest).takeWhile isDigit = ds := by
  rw [List.takeWhile_append_of_pos (isDigits_iff.1 hds).2, hrest, List.append_nil]

theorem dropWhile_isDigit_append (hds : isDigits ds = true)
    (hrest : rest.dropWhile isDigit = rest) : (ds ++ rest).dropWhile isDigit = rest := by
  rw [List.dropWhile_append_of_pos (isDigits_iff.1 hds).2, hrest]

theorem takeWhile_exponentText (e : Option (Bool × List Char)) :
    (exponentText e).takeWhile isDigit = [] := by
  cases e <;> rfl

theorem dropWhile_exponentText (e : Option (Bool × List Char)) :
    (exponentText e).dropWhile isDigit = exponentText e := by
  cases e <;> rfl

theorem isExponentPart_exponentText {e : Option (Bool × List Char)}
    (h : ∀ p ∈ e, isDigits p.2 = true) : isExponentPart (exponentText e) = true := by
  cases e with
  | none => rfl
  | some p =>
      obtain ⟨negative, ds⟩ := p
      have hds : isDigits ds = true := h _ rfl
      cases negative <;> exact hds

theorem isDecimal_append_exponentText {e : Option (Bool × List Char)} (hds : isDigits ds = true)
    (he : ∀ p ∈ e, isDigits p.2 = true) : isDecimal (ds ++ exponentText e) = true := by
  have hne : ds.isEmpty = false := by
    simpa using (isDigits_iff.1 hds).1
  have hexponent := isExponentPart_exponentText he
  rw [isDecimal, takeWhile_isDigit_append hds (takeWhile_exponentText e),
    dropWhile_isDigit_append hds (dropWhile_exponentText e), hne]
  cases e with
  | none => rfl
  | some p => exact hexponent

theorem isDecimal_append_point {e : Option (Bool × List Char)} (hds : isDigits ds = true)
    (hrest : isDigits rest = true) (he : ∀ p ∈ e, isDigits p.2 = true) :
    isDecimal (ds ++ '.' :: (rest ++ exponentText e)) = true := by
  have hne : ds.isEmpty = false := by
    simpa using (isDigits_iff.1 hds).1
  have hpoint : isDigit '.' = false := by decide
  rw [isDecimal, takeWhile_isDigit_append hds (List.takeWhile_cons_of_neg (by simp [hpoint])),
    dropWhile_isDigit_append hds (List.dropWhile_cons_of_neg (by simp [hpoint])), hne]
  simp only [dropWhile_isDigit_append hrest (dropWhile_exponentText e),
    isExponentPart_exponentText he]
  rfl

theorem IsPlain.isDecimal_body (h : s.IsPlain) : isDecimal s.body = true := by
  obtain ⟨negative, whole, fraction, exponent⟩ := s
  have hexponent : ∀ p ∈ exponent, isDigits p.2 = true := fun p hp => (h.exponent p hp).1
  cases fraction with
  | none => exact isDecimal_append_exponentText h.whole.1 hexponent
  | some ds => exact isDecimal_append_point h.whole.1 (h.fraction ds rfl) hexponent

/-- Taking the sign off leaves the body. -/
theorem IsPlain.unsigned_text (h : s.IsPlain) : unsigned s.text = s.body := by
  obtain ⟨hne, hdigits⟩ := isDigits_iff.1 h.whole.1
  obtain ⟨d, ds, hwhole⟩ := List.exists_cons_of_ne_nil hne
  have hd : isDigit d = true := hdigits d (by simp [hwhole])
  rw [text]
  split
  · rfl
  · rw [body, hwhole, List.cons_append, unsigned_cons_of_isDigit hd]

theorem IsPlain.isReal_text (h : s.IsPlain) : isReal s.text = true := by
  rw [isReal, h.unsigned_text, h.isDecimal_body, Bool.true_or]

/-- Nothing but a sign and digits is read as an integer. -/
theorem IsPlain.isInteger_of_isDigits (h : s.IsPlain)
    (hdigits : isDigits (unsigned s.text) = true) : s.IsInteger := by
  rw [h.unsigned_text] at hdigits
  have hall := (isDigits_iff.1 hdigits).2
  obtain ⟨negative, whole, fraction, exponent⟩ := s
  constructor
  · cases fraction with
    | none => rfl
    | some ds => exact absurd (hall '.' (by simp [body, fractionText])) (by decide)
  · cases exponent with
    | none => rfl
    | some p => exact absurd (hall 'e' (by simp [body, exponentText])) (by decide)

/-! ### Forms of real numbers -/

/-- Digits on both sides of a point. -/
def positional (negative : Bool) (whole fraction : List Char) : Spelling :=
  ⟨negative, whole, some fraction, none⟩

/-- One digit, the others behind a point if there are any, and an exponent. -/
def scientific (negative : Bool) (d : Char) (ds : List Char) (exponent : Int) : Spelling :=
  ⟨negative, [d], if ds.isEmpty then none else some ds,
    some (decide (exponent < 0), Nat.toDigits 10 exponent.natAbs)⟩

variable {whole fraction : List Char} {d : Char}

theorem body_positional (negative : Bool) (whole fraction : List Char) :
    (positional negative whole fraction).body = whole ++ '.' :: fraction := by
  simp [positional, body, fractionText, exponentText]

theorem isPlain_positional (hwhole : IsWholeNumeral whole) (hfraction : isDigits fraction = true)
    (negative : Bool) : (positional negative whole fraction).IsPlain where
  whole := hwhole
  fraction := by
    rintro _ ⟨⟩
    exact hfraction
  exponent := nofun

theorem not_isInteger_positional (negative : Bool) (whole fraction : List Char) :
    ¬ (positional negative whole fraction).IsInteger := nofun

theorem body_scientific (negative : Bool) (d : Char) (ds : List Char) (exponent : Int) :
    (scientific negative d ds exponent).body =
      d :: ((if ds.isEmpty then [] else '.' :: ds) ++
        ['e', if exponent < 0 then '-' else '+'] ++ Nat.toDigits 10 exponent.natAbs) := by
  cases ds <;> simp [scientific, body, fractionText, exponentText]

theorem isPlain_scientific (hd : isDigit d = true) (hds : ∀ c ∈ ds, isDigit c = true)
    (negative : Bool) (exponent : Int) : (scientific negative d ds exponent).IsPlain where
  whole := by
    have hwhole : isDigits [d] = true := by simp [isDigits, hd]
    exact ⟨hwhole, hasLeadingZero_singleton d⟩
  fraction := by
    intro part hpart
    cases ds with
    | nil => cases hpart
    | cons c rest =>
        cases hpart
        exact isDigits_iff.2 ⟨by simp, hds⟩
  exponent := by
    rintro _ ⟨⟩
    exact isWholeNumeral_toDigits _

theorem not_isInteger_scientific (negative : Bool) (d : Char) (ds : List Char) (exponent : Int) :
    ¬ (scientific negative d ds exponent).IsInteger := nofun

end Spelling

end Json

/-! ## Digits of real numbers -/

namespace Decimal

theorem Scientific.digits_stripped_ne_zero {x : Scientific} (h : x.digits ≠ 0) (fuel : Nat) :
    (x.stripped fuel).digits ≠ 0 := by
  induction fuel generalizing x with
  | zero => exact h
  | succ fuel ih =>
      rw [stripped]
      split
      · rename_i hzero
        have hquotient : x.digits / 10 ≠ 0 := by omega
        exact ih hquotient
      · exact h

namespace Binary64

/-- Zero reads back as no positive number. -/
theorem gridPoint?_ne_zero {x : Binary64} (hx : x.mantissa ≠ 0) {k : Int} {d : Nat}
    (h : x.gridPoint? k = some d) : d ≠ 0 := by
  unfold gridPoint? at h
  extract_lets e unit grid value low high even readsBack below above at h
  -- whatever is found reads back, so that it lies above `low` or on it
  have hread : readsBack d = true := by
    split at h
    · rename_i hbelow habove
      split at h
      · exact Option.some_inj.1 h ▸ hbelow
      · exact Option.some_inj.1 h ▸ habove
    · rename_i hbelow habove
      exact Option.some_inj.1 h ▸ hbelow
    · rename_i hbelow habove
      exact Option.some_inj.1 h ▸ habove
    · cases h
  have hlow : 0 < low := by
    refine Nat.mul_pos ?_ (Nat.mul_pos (Nat.two_pow_pos _) (Nat.pow_pos (by decide)))
    split <;> omega
  have hplace : 0 < d * grid := by
    obtain ⟨hle, -⟩ := of_decide_eq_true hread
    omega
  rintro rfl
  rw [Nat.zero_mul] at hplace
  exact Nat.lt_irrefl 0 hplace

theorem digits_shortest_ne_zero {x : Binary64} (hx : x.mantissa ≠ 0) : x.shortest.digits ≠ 0 := by
  rw [shortest]
  split
  · rename_i s hfound
    obtain ⟨i, -, hi⟩ := List.exists_of_findSome?_eq_some hfound
    obtain ⟨d, hd, rfl⟩ := Option.map_eq_some_iff.1 hi
    exact Scientific.digits_stripped_ne_zero (gridPoint?_ne_zero hx hd) 17
  · exact hx

end Binary64

end Decimal

/-! ## Numbers -/

namespace Json

open Spelling (positional scientific body_positional body_scientific isPlain_positional
  isPlain_scientific not_isInteger_positional not_isInteger_scientific)

/-- The digits of a positive number stand in front of a point, or behind one, or on both sides. -/
theorem exists_spelling_of_scientific {x : Scientific} (hx : x.digits ≠ 0) (negative : Bool) :
    ∃ s : Spelling, s.negative = negative ∧ s.body = scientificText x ∧ s.IsPlain ∧
      ¬ s.IsInteger := by
  obtain ⟨d, ds, hdigits, hd⟩ := exists_toDigits_eq_cons hx
  have hall : ∀ c ∈ d :: ds, isDigit c = true := by
    rw [← hdigits]
    exact fun c hc => isDigit_of_mem_toDigits hc
  have hfirst := hall d List.mem_cons_self
  have hrest : ∀ c ∈ ds, isDigit c = true := fun c hc => hall c (List.mem_cons_of_mem _ hc)
  simp only [scientificText, hdigits]
  generalize ((d :: ds).length : Int) + x.exponent = point
  split
  · rename_i hpoint
    obtain ⟨k, rfl⟩ : ∃ k : Nat, point = (k + 1 : Nat) := ⟨point.toNat - 1, by omega⟩
    rw [Int.toNat_natCast]
    split
    · -- zeros fill the places between the digits and the point
      have hwhole :
          IsWholeNumeral (d :: (ds ++ List.replicate (k + 1 - (d :: ds).length) '0')) := by
        refine isWholeNumeral_cons hd ?_
        rw [List.forall_mem_cons, List.forall_mem_append]
        exact ⟨hfirst, hrest, isDigit_of_mem_replicate⟩
      refine ⟨positional negative _ ['0'], rfl, ?_, isPlain_positional hwhole rfl negative,
        not_isInteger_positional _ _ _⟩
      simp [body_positional]
    · -- the point is among the digits, so that there are some behind it
      rename_i hlength
      have hwhole : IsWholeNumeral (d :: ds.take k) := by
        refine isWholeNumeral_cons hd ?_
        rw [List.forall_mem_cons]
        exact ⟨hfirst, fun c hc => hrest c (List.mem_of_mem_take hc)⟩
      have hfraction : isDigits (ds.drop k) = true := by
        refine isDigits_iff.2 ⟨?_, fun c hc => hrest c (List.mem_of_mem_drop hc)⟩
        rw [Ne, List.drop_eq_nil_iff]
        simp at hlength
        omega
      refine ⟨positional negative _ _, rfl, ?_, isPlain_positional hwhole hfraction negative,
        not_isInteger_positional _ _ _⟩
      simp [body_positional]
  · split
    · -- a zero stands in front of the point, and all digits behind it
      have hfraction : isDigits (List.replicate (-point).toNat '0' ++ d :: ds) = true := by
        rw [isDigits_iff, List.forall_mem_append]
        exact ⟨by simp, isDigit_of_mem_replicate, hall⟩
      refine ⟨positional negative ['0'] _, rfl, ?_,
        isPlain_positional isWholeNumeral_zero hfraction negative, not_isInteger_positional _ _ _⟩
      simp [body_positional]
    · refine ⟨scientific negative d ds (point - 1), rfl, ?_,
        isPlain_scientific hfirst hrest negative _, not_isInteger_scientific _ _ _ _⟩
      rw [body_scientific]
      simp

theorem toList_repr (k : Int) : k.repr.toList =
    if k < 0 then '-' :: Nat.toDigits 10 k.natAbs else Nat.toDigits 10 k.natAbs := by
  cases k with
  | ofNat m =>
      have hpos : ¬ Int.ofNat m < 0 := by simp
      rw [if_neg hpos]
      exact Nat.toList_repr
  | negSucc m =>
      rw [if_pos (Int.negSucc_lt_zero m)]
      show ("-" ++ Nat.repr (m + 1)).toList = _
      rw [String.toList_append, Nat.toList_repr]
      rfl

/-- The numbers that are kept as integers are those without a point and an exponent. -/
theorem Number.exists_spelling (n : Number) :
    ∃ s : Spelling, s.IsPlain ∧ n.text.toList = s.text ∧
      (s.IsInteger ↔ ∃ k, n = .integer k) := by
  cases n with
  | integer k =>
      refine ⟨⟨decide (k < 0), Nat.toDigits 10 k.natAbs, none, none⟩,
        ⟨isWholeNumeral_toDigits _, nofun, nofun⟩, ?_, iff_of_true ⟨rfl, rfl⟩ ⟨k, rfl⟩⟩
      simp [text, toList_repr, Spelling.text, Spelling.body, Spelling.fractionText,
        Spelling.exponentText]
  | real negative magnitude =>
      have hreal : ¬ ∃ k, real negative magnitude = .integer k := nofun
      by_cases hzero : magnitude.mantissa = 0
      · refine ⟨positional negative ['0'] ['0'],
          isPlain_positional isWholeNumeral_zero rfl negative, ?_,
          iff_of_false (not_isInteger_positional _ _ _) hreal⟩
        rw [text, if_pos hzero, String.toList_ofList, Spelling.text, body_positional]
        rfl
      · obtain ⟨s, rfl, hbody, hplain, hinteger⟩ :=
          exists_spelling_of_scientific (Binary64.digits_shortest_ne_zero hzero) negative
        refine ⟨s, hplain, ?_, iff_of_false hinteger hreal⟩
        rw [text, if_neg hzero, String.toList_ofList, Spelling.text, hbody]

/-! ## Accepted texts -/

theorem Number.trim_text (n : Number) : Text.trim n.text.toList = n.text.toList := by
  obtain ⟨s, hs, htext, -⟩ := n.exists_spelling
  rw [htext]
  exact trim_of_isReal hs.isReal_text

theorem Number.isReal_text (n : Number) : isReal n.text.toList = true := by
  obtain ⟨s, hs, htext, -⟩ := n.exists_spelling
  rw [htext]
  exact hs.isReal_text

theorem unsigned_repr (k : Int) : unsigned k.repr.toList = Nat.toDigits 10 k.natAbs := by
  rw [toList_repr]
  split
  · rfl
  · have hne : Nat.toDigits 10 k.natAbs ≠ [] := Nat.toDigits_ne_nil
    obtain ⟨d, ds, hdigits⟩ := List.exists_cons_of_ne_nil hne
    have hd : isDigit d = true := isDigit_of_mem_toDigits (hdigits ▸ List.mem_cons_self)
    rw [hdigits, unsigned_cons_of_isDigit hd]

theorem withSign_repr (k : Int) : withSign k.repr.toList k.natAbs = k := by
  rw [toList_repr, withSign]
  by_cases hk : k < 0
  · rw [if_pos hk, List.head?_cons, if_pos rfl]
    omega
  · have hplain : (Nat.toDigits 10 k.natAbs).head? ≠ some '-' := by
      intro h
      exact absurd (isDigit_of_mem_toDigits (List.mem_of_mem_head? h)) (by decide)
    rw [if_neg hk, if_neg hplain]
    omega

/-- An integer is read back from its text when 64 bits hold it with its sign. -/
theorem integer?_repr (k : Int) : integer? k.repr.toList =
    if -(wordLimit : Int) ≤ k ∧ k < wordLimit then some k else none := by
  have hread : integer? k.repr.toList =
      if isDigits (unsigned k.repr.toList) then
        let n := withSign k.repr.toList (valueOf (unsigned k.repr.toList))
        if -(wordLimit : Int) ≤ n ∧ n < wordLimit then some n else none
      else none := rfl
  rw [hread, unsigned_repr, valueOf_toDigits, withSign_repr,
    if_pos (isWholeNumeral_toDigits k.natAbs).1]

theorem Number.accepts_integer_text (n : Number) :
    Tag.integer.accepts n.text = true ↔
      ∃ k, n = .integer k ∧ -(wordLimit : Int) ≤ k ∧ k < wordLimit := by
  rw [Tag.accepts, n.trim_text]
  cases n with
  | integer k =>
      have htext : (Number.integer k).text = k.repr := rfl
      rw [htext, integer?_repr]
      by_cases hrange : -(wordLimit : Int) ≤ k ∧ k < wordLimit
      · rw [if_pos hrange]
        exact iff_of_true rfl ⟨k, rfl, hrange⟩
      · rw [if_neg hrange]
        refine iff_of_false (by simp) ?_
        rintro ⟨l, hl, h⟩
        cases hl
        exact hrange h
  | real negative magnitude =>
      have hreal : ¬ ∃ k, real negative magnitude = .integer k ∧
          -(wordLimit : Int) ≤ k ∧ k < wordLimit := by
        rintro ⟨k, hk, -⟩
        cases hk
      refine iff_of_false (fun h => ?_) hreal
      obtain ⟨s, hs, htext, hinteger⟩ := (real negative magnitude).exists_spelling
      obtain ⟨m, hm⟩ := Option.isSome_iff_exists.1 h
      rw [htext] at hm
      obtain ⟨k, ⟨⟩⟩ := hinteger.1 (hs.isInteger_of_isDigits (integer?_eq_some hm).1)

end Json

end Bindery
