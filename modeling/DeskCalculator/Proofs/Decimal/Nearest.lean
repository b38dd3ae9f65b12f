import DeskCalculator.Decimal.Binary
import Mathlib

/-!
# The nearest double

The bit pattern next to a ratio depends on nothing but the rational number that the ratio is.  It is
a mantissa with an exponent, where the exponent is that of the binade of the number, and the
mantissa is the number rounded in steps of this exponent.

* `zpow_eq_div` — a power with an integer for its exponent, as a quotient of two without.
* `lastPlace_eq` — the last place of a ratio is fifty-two places below its leading bit.
* `roundedQuotient_eq` — an integer within half a unit of a ratio is what the ratio is rounded to.
* `nearestBits_eq` — so a ratio within half a unit of a mantissa has the bits of the mantissa.
-/

namespace DeskCalculator

/-- A power with an integer for its exponent, as the exact arithmetic of ratios has it. -/
theorem zpow_eq_div (b : ℚ) (k : Int) : b ^ k = b ^ k.toNat / b ^ (-k).toNat := by
  rcases Int.le_total 0 k with hk | hk
  · obtain ⟨n, rfl⟩ := Int.eq_ofNat_of_zero_le hk
    have hzero : (-(n : Int)).toNat = 0 := by omega
    simp [hzero]
  · obtain ⟨n, hn⟩ := Int.eq_ofNat_of_zero_le (show 0 ≤ -k by omega)
    have hzero : k.toNat = 0 := by omega
    have hpow : (-k).toNat = n := by omega
    have hk' : k = -(n : Int) := by omega
    rw [hzero, hpow, hk', zpow_neg, zpow_natCast, pow_zero, one_div]

section Ratio

variable {num den : Nat}

/-! ## The last place -/

/-- The binary logarithms tell the leading bit of a ratio but for one place. -/
theorem ratio_bounds (hnum : num ≠ 0) (hden : den ≠ 0) :
    (2 : ℚ) ^ ((num.log2 : Int) - den.log2 - 1) ≤ num / den ∧
      (num / den : ℚ) < 2 ^ ((num.log2 : Int) - den.log2 + 1) := by
  have hdenPos : (0 : ℚ) < den := by
    exact_mod_cast Nat.pos_of_ne_zero hden
  have hnumLow : (2 : ℚ) ^ (num.log2 : Int) ≤ num := by
    exact_mod_cast Nat.log2_self_le hnum
  have hnumHigh : (num : ℚ) < 2 ^ ((num.log2 : Int) + 1) := by
    exact_mod_cast Nat.lt_log2_self (n := num)
  have hdenLow : (2 : ℚ) ^ (den.log2 : Int) ≤ den := by
    exact_mod_cast Nat.log2_self_le hden
  have hdenHigh : (den : ℚ) < 2 ^ ((den.log2 : Int) + 1) := by
    exact_mod_cast Nat.lt_log2_self (n := den)
  constructor
  · rw [le_div_iff₀ hdenPos]
    calc (2 : ℚ) ^ ((num.log2 : Int) - den.log2 - 1) * den
        ≤ 2 ^ ((num.log2 : Int) - den.log2 - 1) * 2 ^ ((den.log2 : Int) + 1) := by gcongr
      _ = 2 ^ (num.log2 : Int) := by
          rw [← zpow_add₀ two_ne_zero]
          congr 1
          omega
      _ ≤ num := hnumLow
  · rw [div_lt_iff₀ hdenPos]
    calc (num : ℚ) < 2 ^ ((num.log2 : Int) + 1) := hnumHigh
      _ = 2 ^ ((num.log2 : Int) - den.log2 + 1) * 2 ^ (den.log2 : Int) := by
          rw [← zpow_add₀ two_ne_zero]
          congr 1
          omega
      _ ≤ 2 ^ ((num.log2 : Int) - den.log2 + 1) * den := by gcongr

/-- A ratio beside a power of two, in exact arithmetic. -/
theorem scaled_lt_iff (num : Nat) (hden : den ≠ 0) (k : Int) :
    num * Nat.pow 2 (-k).toNat < den * Nat.pow 2 k.toNat ↔ (num / den : ℚ) < 2 ^ k := by
  have hdenPos : (0 : ℚ) < den := by
    exact_mod_cast Nat.pos_of_ne_zero hden
  rw [zpow_eq_div, div_lt_div_iff₀ hdenPos (by positivity), mul_comm (2 ^ k.toNat)]
  exact_mod_cast Iff.rfl

/-- The last place of a ratio is fifty-two places below its leading bit, but never below that of the
smallest subnormal. -/
theorem lastPlace_eq (hnum : num ≠ 0) (hden : den ≠ 0) :
    lastPlace num den = max (Int.log 2 (num / den : ℚ) - 52) (-1074) := by
  have hpos : (0 : ℚ) < num / den := by positivity
  obtain ⟨hlow, hhigh⟩ := ratio_bounds hnum hden
  have hfrom := (Int.zpow_le_iff_le_log one_lt_two hpos).1 hlow
  have hto := (Int.lt_zpow_iff_log_lt one_lt_two hpos).1 hhigh
  have hguess := (scaled_lt_iff num hden ((num.log2 : Int) - den.log2)).trans
    (Int.lt_zpow_iff_log_lt one_lt_two hpos)
  unfold lastPlace
  simp only [hguess]
  split <;> omega

/-- In units of its last place a ratio has fifty-three bits before its point, or fewer in the lowest
place. -/
theorem lastPlace_eq_of_binade {place : Int} (hnum : num ≠ 0) (hden : den ≠ 0)
    (hleast : -1074 ≤ place) (hbelow : (num / den : ℚ) / 2 ^ place < 2 ^ 53)
    (habove : place = -1074 ∨ 2 ^ 52 ≤ (num / den : ℚ) / 2 ^ place) :
    lastPlace num den = place := by
  have hpos : (0 : ℚ) < num / den := by positivity
  have hunit : (0 : ℚ) < 2 ^ place := by positivity
  have hto : Int.log 2 (num / den : ℚ) < 53 + place := by
    rw [← Int.lt_zpow_iff_log_lt one_lt_two hpos]
    push_cast
    rw [zpow_add₀ two_ne_zero, ← div_lt_iff₀ hunit]
    exact hbelow
  have hfrom : place = -1074 ∨ 52 + place ≤ Int.log 2 (num / den : ℚ) := by
    refine habove.imp_right fun habove => ?_
    rw [← Int.zpow_le_iff_le_log one_lt_two hpos]
    push_cast
    rw [zpow_add₀ two_ne_zero, ← le_div_iff₀ hunit]
    exact habove
  rw [lastPlace_eq hnum hden]
  omega

/-! ## The mantissa -/

/-- The distance of an integer from a ratio, in exact arithmetic. -/
theorem abs_ratio_sub (hden : den ≠ 0) (m : Nat) :
    |(num / den : ℚ) - m| = ((num : Int) - m * den).natAbs / den := by
  have hdenPos : (0 : ℚ) < den := by
    exact_mod_cast Nat.pos_of_ne_zero hden
  have hsplit : (num / den : ℚ) - m = ((num : Int) - m * den : Int) / den := by
    push_cast
    field_simp
  rw [hsplit, abs_div, abs_of_pos hdenPos, Nat.cast_natAbs, Int.cast_abs]

/-- An integer within half a unit of a ratio is what the ratio is rounded to, if it is even or not
halfway to the next one. -/
theorem roundedQuotient_eq {m : Nat} (hden : den ≠ 0) (hnear : |(num / den : ℚ) - m| ≤ 1 / 2)
    (heven : |(num / den : ℚ) - m| = 1 / 2 → m % 2 = 0) : roundedQuotient num den = m := by
  have hdenPos := Nat.pos_of_ne_zero hden
  have hdenRat : (0 : ℚ) < den := by
    exact_mod_cast hdenPos
  rw [abs_ratio_sub hden] at hnear heven
  have hwithin : 2 * ((num : Int) - m * den).natAbs ≤ den := by
    rw [div_le_iff₀ hdenRat] at hnear
    have hdouble : 2 * (((num : Int) - m * den).natAbs : ℚ) ≤ den := by linarith
    exact_mod_cast hdouble
  have htie (h : 2 * ((num : Int) - m * den).natAbs = den) : m % 2 = 0 := by
    have hdouble : 2 * (((num : Int) - m * den).natAbs : ℚ) = den := by exact_mod_cast h
    refine heven ?_
    rw [div_eq_iff hdenRat.ne']
    linarith
  have hdiv := Nat.div_add_mod num den
  have hmod := Nat.mod_lt num hdenPos
  rw [Nat.mul_comm] at hdiv
  rw [← Int.natCast_mul] at hwithin htie
  -- the integer is the quotient or the next one
  have hcases : m = num / den ∨ m = num / den + 1 := by
    rcases Nat.lt_trichotomy m (num / den) with hlt | heq | hgt
    · have hmul := Nat.mul_le_mul_right den (Nat.succ_le_of_lt hlt)
      rw [Nat.succ_mul] at hmul
      omega
    · exact .inl heq
    · by_cases hnext : m = num / den + 1
      · exact .inr hnext
      · have hmul := Nat.mul_le_mul_right den (show num / den + 2 ≤ m by omega)
        rw [Nat.add_mul] at hmul
        omega
  unfold roundedQuotient
  simp only [Bool.or_eq_true, Bool.and_eq_true, decide_eq_true_eq]
  rcases hcases with heq | heq
  · rw [← heq] at hdiv ⊢
    rw [if_neg]
    omega
  · rw [heq, Nat.add_mul, Nat.one_mul] at hwithin htie
    rw [if_pos, heq]
    omega

/-- The bits of a ratio: they have the place of its binade, and the mantissa that the ratio is next
to in units of this place. -/
theorem nearestBits_eq {m : Nat} {place : Int} (hnum : num ≠ 0) (hden : den ≠ 0)
    (hleast : -1074 ≤ place) (hbelow : (num / den : ℚ) / 2 ^ place < 2 ^ 53)
    (habove : place = -1074 ∨ 2 ^ 52 ≤ (num / den : ℚ) / 2 ^ place)
    (hnear : |(num / den : ℚ) / 2 ^ place - m| ≤ 1 / 2)
    (heven : |(num / den : ℚ) / 2 ^ place - m| = 1 / 2 → m % 2 = 0)
    (hfinite : (place + 1074).toNat * 2 ^ 52 + m ≤ infinityBits) :
    nearestBits num den = (place + 1074).toNat * 2 ^ 52 + m := by
  have hplace := lastPlace_eq_of_binade hnum hden hleast hbelow habove
  have hscaled : (num / den : ℚ) / 2 ^ place =
      ((num * Nat.pow 2 (-place).toNat : Nat) : ℚ) / (den * Nat.pow 2 place.toNat : Nat) := by
    rw [zpow_eq_div]
    push_cast
    simp only [Nat.pow_eq, Nat.cast_pow, Nat.cast_ofNat]
    field_simp
  have hpow : den * Nat.pow 2 place.toNat ≠ 0 := by
    simpa using hden
  rw [hscaled] at hnear heven
  unfold nearestBits
  simp only [if_neg hnum, hplace, roundedQuotient_eq hpow hnear heven]
  exact Nat.min_eq_left hfinite

end Ratio

end DeskCalculator
