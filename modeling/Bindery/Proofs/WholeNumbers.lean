import Bindery.Decimal.Binary64

/-!
# Whole numbers in 53 bits

A whole number survives as a floating-point number exactly when it is a number below `2 ^ 53`
times a power of two. Below that limit it is shifted, and above it the bits that do not fit
are rounded, which changes nothing only where they are zeros.
-/

namespace Bindery.Decimal.Binary64

/-- The floating-point number is this whole number. -/
def IsNat (x : Binary64) (n : Nat) : Prop := x.ratio.1 = n * x.ratio.2

theorem isNat_shifted_down (m k : Nat) {n : Nat} :
    IsNat ⟨m, -(k : Int)⟩ n ↔ m = n * Nat.pow 2 k := by
  simp [IsNat, ratio]

theorem isNat_shifted_up (m k : Nat) {n : Nat} :
    IsNat ⟨m, (k : Int)⟩ n ↔ m * Nat.pow 2 k = n := by
  simp [IsNat, ratio]

/-! ## Rounding -/

theorem roundDiv_of_dvd {num den : Nat} (hden : 0 < den) (h : den ∣ num) :
    roundDiv num den = num / den := by
  have hmod := Nat.mod_eq_zero_of_dvd h
  simp only [roundDiv, hmod]
  rw [if_neg (by omega)]

theorem roundDiv_le (num den : Nat) : roundDiv num den ≤ num / den + 1 := by
  simp only [roundDiv]
  split <;> omega

theorem floorLog2_one {n : Nat} (hn : n ≠ 0) : floorLog2 n 1 = n.log2 := by
  have hle : 1 * Nat.pow 2 n.log2 ≤ n * Nat.pow 2 (-(n.log2 : Int)).toNat := by
    simpa using Nat.log2_self_le hn
  have hone : Nat.log2 1 = 0 := by decide
  simp only [floorLog2, hone, Int.natCast_zero, Int.sub_zero, Int.toNat_natCast, if_pos hle]

/-- The 53 highest bits of a number are below the limit of mantissas. -/
theorem div_lt_mantissaLimit {n k : Nat} (hk : n.log2 = k + 52) :
    n / Nat.pow 2 k < mantissaLimit := by
  refine (Nat.div_lt_iff_lt_mul (Nat.two_pow_pos k)).2 ?_
  calc n < 2 ^ (n.log2 + 1) := Nat.lt_log2_self
    _ = 2 ^ 53 * 2 ^ k := by rw [← Nat.pow_add, show 53 + k = n.log2 + 1 by omega]

/-- A number with 53 bits at most is shifted to have 53. -/
theorem round?_of_log2_le {n : Nat} (hn : n ≠ 0) (h : n.log2 ≤ 52) :
    round? n 1 = some ⟨n * Nat.pow 2 (52 - n.log2), -((52 - n.log2 : Nat) : Int)⟩ := by
  have hexponent : max leastExponent (floorLog2 n 1 - 52) = -((52 - n.log2 : Nat) : Int) := by
    rw [floorLog2_one hn, leastExponent]
    omega
  have hmantissa : n * Nat.pow 2 (52 - n.log2) < mantissaLimit := by
    calc n * 2 ^ (52 - n.log2) < 2 ^ (n.log2 + 1) * 2 ^ (52 - n.log2) :=
          Nat.mul_lt_mul_of_pos_right Nat.lt_log2_self (Nat.two_pow_pos _)
      _ = 2 ^ 53 := by rw [← Nat.pow_add, show n.log2 + 1 + (52 - n.log2) = 53 by omega]
  have hround : roundDiv (n * Nat.pow 2 (52 - n.log2)) (1 * Nat.pow 2 0) =
      n * Nat.pow 2 (52 - n.log2) := by
    rw [roundDiv_of_dvd (by decide) (by simp)]
    simp
  have hle : -((52 - n.log2 : Nat) : Int) ≤ greatestExponent := by
    rw [greatestExponent]
    omega
  simp only [round?, if_neg hn, hexponent, Int.neg_neg, Int.toNat_natCast, Int.toNat_neg_natCast,
    hround, if_pos hmantissa, if_pos hle]

/-- Of a number with more bits, what is below the 53 highest is rounded. -/
theorem round?_of_log2_eq {n k : Nat} (hk : n.log2 = k + 52) (hsmall : k < 64) :
    ∃ m l : Nat, m < mantissaLimit ∧ round? n 1 = some ⟨m, (l : Int)⟩ ∧
      (Nat.pow 2 k ∣ n → m * Nat.pow 2 l = n) := by
  have hne : n ≠ 0 := by
    rintro rfl
    simp at hk
  have hexponent : max leastExponent (floorLog2 n 1 - 52) = (k : Int) := by
    rw [floorLog2_one hne, leastExponent]
    omega
  have hexact (hdvd : Nat.pow 2 k ∣ n) : roundDiv n (Nat.pow 2 k) = n / Nat.pow 2 k :=
    roundDiv_of_dvd (Nat.two_pow_pos k) hdvd
  have hsame : roundDiv (n * Nat.pow 2 (-(k : Int)).toNat) (1 * Nat.pow 2 (k : Int).toNat) =
      roundDiv n (Nat.pow 2 k) := by
    simp
  by_cases hfits : roundDiv n (Nat.pow 2 k) < mantissaLimit
  · have hle : (k : Int) ≤ greatestExponent := by
      rw [greatestExponent]
      omega
    refine ⟨roundDiv n (Nat.pow 2 k), k, hfits, ?_, fun hdvd => ?_⟩
    · simp only [round?, if_neg hne, hexponent, hsame, if_pos hfits, if_pos hle]
    · rw [hexact hdvd, Nat.div_mul_cancel hdvd]
  · -- rounding up has carried into a further bit, so that something was rounded
    have hle : (k : Int) + 1 ≤ greatestExponent := by
      rw [greatestExponent]
      omega
    have hround := roundDiv_le n (Nat.pow 2 k)
    have hquotient := div_lt_mantissaLimit hk
    have hpos : 0 < mantissaLimit := by decide
    refine ⟨roundDiv n (Nat.pow 2 k) / 2, k + 1, by omega, ?_, fun hdvd => ?_⟩
    · simp only [round?, if_neg hne, hexponent, hsame, if_neg hfits, if_pos hle, Int.natCast_succ]
    · rw [hexact hdvd] at hfits
      exact absurd hquotient hfits

/-- A number of not too many bits is rounded to itself when 53 of them tell it. -/
theorem exists_round?_isNat_iff {n : Nat} (hn : n.log2 < 64) :
    (∃ x, round? n 1 = some x ∧ x.IsNat n) ↔ ∃ m k, m < mantissaLimit ∧ n = m * Nat.pow 2 k := by
  by_cases hzero : n = 0
  · subst hzero
    exact iff_of_true ⟨zero, rfl, by simp [IsNat, zero, ratio]⟩ ⟨0, 0, by decide, by simp⟩
  by_cases hlog : n.log2 ≤ 52
  · have hsmall : n < mantissaLimit :=
      Nat.lt_of_lt_of_le Nat.lt_log2_self (Nat.pow_le_pow_right (by decide) (by omega))
    exact iff_of_true ⟨_, round?_of_log2_le hzero hlog, (isNat_shifted_down _ _).2 rfl⟩
      ⟨n, 0, hsmall, by simp⟩
  · obtain ⟨k, hk⟩ : ∃ k, n.log2 = k + 52 := ⟨n.log2 - 52, by omega⟩
    obtain ⟨m, l, hm, hround, hexact⟩ := round?_of_log2_eq hk (by omega)
    constructor
    · rintro ⟨x, hx, hvalue⟩
      rw [hround] at hx
      cases hx
      exact ⟨m, l, hm, ((isNat_shifted_up m l).1 hvalue).symm⟩
    · rintro ⟨m', k', hm', hvalue⟩
      refine ⟨_, hround, (isNat_shifted_up m l).2 (hexact ?_)⟩
      -- the highest bit of `m'` is at most the 53rd, so that the bits below that of `n` are zeros
      have hlog' : n.log2 < 53 + k' := by
        rw [Nat.log2_lt hzero, hvalue, Nat.pow_add]
        exact Nat.mul_lt_mul_of_pos_right hm' (Nat.two_pow_pos k')
      have hdvd : Nat.pow 2 k ∣ Nat.pow 2 k' := Nat.pow_dvd_pow 2 (by omega)
      exact Nat.dvd_trans hdvd ⟨m', by rw [hvalue, Nat.mul_comm]⟩

end Bindery.Decimal.Binary64
