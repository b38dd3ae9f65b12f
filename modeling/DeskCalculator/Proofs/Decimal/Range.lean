import DeskCalculator.Proofs.Decimal.Nearest
import Mathlib

/-!
# The range of doubles

A whole number is rounded to a double unless it is too large for one.  The largest double is
`2 ^ 1024 - 2 ^ 971`, and what lies less than half a unit above it still is rounded to it.

* `lastPlace_one` — the last place of a whole number is fifty-two places below its leading bit.
* `two_pow_le_roundedQuotient`, `roundedQuotient_le_two_pow` — so its mantissa has fifty-three
  bits, or is the power of two that comes next.
* `floatOfInt?_eq_none_iff` — a whole number has no double from `beyondDoubles` on.
-/

namespace DeskCalculator

variable {n den : Nat}

/-! ## The last place -/

theorem lastPlace_one (hn : n ≠ 0) : lastPlace n 1 = (n.log2 : Int) - 52 := by
  rw [lastPlace_eq hn one_ne_zero, Nat.cast_one, div_one, Int.log_natCast, ← Nat.log2_eq_log_two]
  omega

/-! ## The mantissa -/

/-- A ratio of at least `2 ^ 52` stays so when it is rounded. -/
theorem two_pow_le_roundedQuotient {num : Nat} (hden : 0 < den) (h : 2 ^ 52 * den ≤ num) :
    2 ^ 52 ≤ roundedQuotient num den := by
  have hle : 2 * num ≤ 2 * den * roundedQuotient num den + den := le_roundedQuotient hden
  by_contra hlt
  have hmul : 2 * den * roundedQuotient num den ≤ 2 * den * (2 ^ 52 - 1) :=
    Nat.mul_le_mul_left _ (by omega)
  have hsplit : 2 * den * (2 ^ 52 - 1) + 2 * den = 2 * (2 ^ 52 * den) := by ring_nf
  omega

/-- A ratio below `2 ^ 53` is rounded to that at most. -/
theorem roundedQuotient_le_two_pow {num : Nat} (hden : 0 < den) (h : num < 2 ^ 53 * den) :
    roundedQuotient num den ≤ 2 ^ 53 := by
  have hle : 2 * den * roundedQuotient num den ≤ 2 * num + den := roundedQuotient_le hden
  by_contra hlt
  have hmul : 2 * den * (2 ^ 53 + 1) ≤ 2 * den * roundedQuotient num den :=
    Nat.mul_le_mul_left _ (by omega)
  have hsplit : 2 * den * (2 ^ 53 + 1) = 2 * (2 ^ 53 * den) + 2 * den := by ring_nf
  omega

/-- A ratio is rounded up to `2 ^ 53` from the middle between this and the number before on, since
the number before is odd. -/
theorem two_pow_le_roundedQuotient_iff {half num : Nat} (hhalf : 0 < half) :
    2 ^ 53 ≤ roundedQuotient num (2 * half) ↔ (2 ^ 54 - 1) * half ≤ num := by
  have hdiv := Nat.div_add_mod num (2 * half)
  have hmod := Nat.mod_lt num (show 0 < 2 * half by omega)
  constructor
  · intro h
    have hle : 2 * (2 * half) * roundedQuotient num (2 * half) ≤ 2 * num + 2 * half :=
      roundedQuotient_le (by omega)
    have hmul : 2 * (2 * half) * 2 ^ 53 ≤ 2 * (2 * half) * roundedQuotient num (2 * half) :=
      Nat.mul_le_mul_left _ h
    omega
  · intro h
    have hquotient : 2 ^ 53 - 1 ≤ num / (2 * half) :=
      (Nat.le_div_iff_mul_le (by omega)).2 (by omega)
    unfold roundedQuotient
    simp only [Bool.or_eq_true, Bool.and_eq_true, decide_eq_true_eq]
    by_cases hlast : num / (2 * half) = 2 ^ 53 - 1
    · rw [hlast] at hdiv
      rw [if_pos (by omega)]
      omega
    · split <;> omega

/-! ## Whole numbers -/

/-- The ratio that is rounded for a whole number has fifty-three bits before its point. -/
theorem scaled_bounds (hn : n ≠ 0) :
    2 ^ 52 * 2 ^ ((n.log2 : Int) - 52).toNat ≤ n * 2 ^ (-((n.log2 : Int) - 52)).toNat ∧
      n * 2 ^ (-((n.log2 : Int) - 52)).toNat < 2 ^ 53 * 2 ^ ((n.log2 : Int) - 52).toNat := by
  have hle : 2 ^ n.log2 ≤ n := Nat.log2_self_le hn
  have hlt : n < 2 ^ (n.log2 + 1) := Nat.lt_log2_self
  have hexponents : n.log2 + (-((n.log2 : Int) - 52)).toNat =
      52 + ((n.log2 : Int) - 52).toNat := by omega
  have hsucc : n.log2 + 1 + (-((n.log2 : Int) - 52)).toNat =
      53 + ((n.log2 : Int) - 52).toNat := by omega
  rw [← Nat.pow_add, ← Nat.pow_add, ← hexponents, ← hsucc, Nat.pow_add, Nat.pow_add _ _ (Int.toNat _)]
  exact ⟨Nat.mul_le_mul_right _ hle, Nat.mul_lt_mul_of_pos_right hlt (Nat.two_pow_pos _)⟩

/-- The bit pattern of the double nearest to a whole number. -/
theorem nearestBits_one (hn : n ≠ 0) : nearestBits n 1 =
    min ((n.log2 + 1022) * 2 ^ 52 + roundedQuotient (n * 2 ^ (-((n.log2 : Int) - 52)).toNat)
      (2 ^ ((n.log2 : Int) - 52).toNat)) infinityBits := by
  have hplace : ((n.log2 : Int) - 52 + 1074).toNat = n.log2 + 1022 := by omega
  unfold nearestBits
  simp only [if_neg hn, lastPlace_one hn, hplace, Nat.pow_eq, Nat.one_mul]

/-- In its last binade a whole number is rounded in steps of `2 ^ (k + 1)`, where the binade ends at
`2 ^ (54 + k)`. -/
theorem two_pow_le_mantissa_iff {k : Nat} (hlog : n.log2 = 53 + k) :
    2 ^ 53 ≤ roundedQuotient (n * 2 ^ (-((n.log2 : Int) - 52)).toNat)
      (2 ^ ((n.log2 : Int) - 52).toNat) ↔ (2 ^ 54 - 1) * 2 ^ k ≤ n := by
  have hup : (-((n.log2 : Int) - 52)).toNat = 0 := by omega
  have hdown : ((n.log2 : Int) - 52).toNat = k + 1 := by omega
  rw [hup, hdown, Nat.pow_zero, Nat.mul_one, Nat.pow_succ' (n := k)]
  exact two_pow_le_roundedQuotient_iff (Nat.two_pow_pos k)

/-- Rounding a whole number overflows from half a unit above the largest double on. -/
theorem nearestBits_eq_infinityBits_iff :
    nearestBits n 1 = infinityBits ↔ (2 ^ 54 - 1) * 2 ^ 970 ≤ n := by
  have hpos : 0 < 2 ^ 970 := by positivity
  by_cases hn : n = 0
  · subst hn
    refine iff_of_false (fun h => ?_) (Nat.not_le.2 (by positivity))
    cases h
  obtain ⟨hlow, hhigh⟩ := scaled_bounds hn
  have hfrom := two_pow_le_roundedQuotient (Nat.two_pow_pos _) hlow
  have hto := roundedQuotient_le_two_pow (Nat.two_pow_pos _) hhigh
  have hlast := two_pow_le_mantissa_iff (n := n) (k := 970)
  have hbelow : n.log2 < 53 + 970 → n < 2 ^ 53 * 2 ^ 970 := by
    rw [← Nat.pow_add]
    exact (Nat.log2_lt hn).1
  have habove : 54 + 970 ≤ n.log2 → 2 ^ 54 * 2 ^ 970 ≤ n := by
    rw [← Nat.pow_add]
    exact (Nat.le_log2 hn).1
  have hinfinity : infinityBits = 2047 * 2 ^ 52 := rfl
  rw [nearestBits_one hn, hinfinity]
  clear hlow hhigh
  -- what counts are the binade and the mantissa, so nobody is to compute the power
  generalize roundedQuotient _ _ = mantissa at hfrom hto hlast ⊢
  generalize 2 ^ 970 = unit at hpos hlast hbelow habove ⊢
  rcases Nat.lt_trichotomy n.log2 (53 + 970) with h | h | h
  · have hsmall := hbelow h
    constructor <;> (intro; omega)
  · rw [← hlast h, h]
    constructor <;> (intro; omega)
  · have hlarge := habove h
    constructor <;> (intro; omega)

/-- Where the whole numbers beyond all doubles begin: half a unit above the largest double. -/
def beyondDoubles : Nat := 2 ^ 1024 - 2 ^ 970

/-- A whole number has no double if it is beyond all of them. -/
theorem floatOfInt?_eq_none_iff (n : Int) : floatOfInt? n = none ↔ beyondDoubles ≤ n.natAbs := by
  have hbound : beyondDoubles = (2 ^ 54 - 1) * 2 ^ 970 := by
    rw [beyondDoubles, Nat.sub_mul, ← Nat.pow_add, Nat.one_mul]
  rw [hbound, ← nearestBits_eq_infinityBits_iff, floatOfInt?]
  simp

end DeskCalculator
