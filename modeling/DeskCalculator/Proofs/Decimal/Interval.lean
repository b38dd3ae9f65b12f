import DeskCalculator.Decimal.Shortest
import DeskCalculator.Proofs.Decimal.Nearest
import Mathlib

/-!
# The numbers that round to a double

Around each double there is an interval of the numbers that are nearer to it than to its neighbours.
Every ratio in it is rounded to the double, and the shortest decimal that is found for a double is in
it.

* `Binary.Covers` — the interval.
* `nearestBits_of_covers` — a ratio in the interval has the bits of the double.
* `Binary.covers_of_readsBack` — what reads back is in the interval.
* `Binary.covers_shortest` — so is the shortest decimal.
-/

namespace DeskCalculator

/-! ## Doubles and their intervals -/

namespace Binary

variable {x : Binary} {r : ℚ}

/-- The magnitudes of finite doubles: fifty-three bits, of which the first one is set unless the
exponent is the least. -/
structure IsDouble (x : Binary) : Prop where
  mantissa_lt : x.mantissa < 2 ^ 53
  exponent_ge : -1074 ≤ x.exponent
  exponent_le : x.exponent ≤ 971
  leading : x.exponent = -1074 ∨ 2 ^ 52 ≤ x.mantissa
  narrowBelow_iff : x.narrowBelow = true ↔ x.exponent ≠ -1074 ∧ x.mantissa = 2 ^ 52

/-- The bits of a magnitude. -/
def bits (x : Binary) : Nat := (x.exponent + 1074).toNat * 2 ^ 52 + x.mantissa

/-- How far the interval reaches to zero, in units of the last place. -/
def reach (x : Binary) : ℚ := if x.narrowBelow then 1 / 4 else 1 / 2

/-- The numbers that round to a double: what lies between the midpoints to its neighbours, and the
midpoints if the mantissa is even. -/
structure Covers (x : Binary) (r : ℚ) : Prop where
  above : (x.mantissa - x.reach) * 2 ^ x.exponent ≤ r
  below : r ≤ (x.mantissa + 1 / 2) * 2 ^ x.exponent
  even : r = (x.mantissa - x.reach) * 2 ^ x.exponent ∨
    r = (x.mantissa + 1 / 2) * 2 ^ x.exponent → x.mantissa % 2 = 0

theorem reach_le (x : Binary) : x.reach ≤ 1 / 2 := by
  unfold reach
  split <;> norm_num

theorem reach_pos (x : Binary) : 0 < x.reach := by
  unfold reach
  split <;> norm_num

theorem IsDouble.bits_lt (h : x.IsDouble) : x.bits < infinityBits := by
  have hlt := h.mantissa_lt
  have hge := h.exponent_ge
  have hle := h.exponent_le
  have hinfinity : infinityBits = 2047 * 2 ^ 52 := rfl
  rw [hinfinity, bits]
  omega

theorem Covers.pos (h : x.Covers r) (hne : x.mantissa ≠ 0) : 0 < r := by
  have hone : (1 : ℚ) ≤ x.mantissa := by
    exact_mod_cast Nat.one_le_iff_ne_zero.2 hne
  have hreach := x.reach_le
  have hpow : (0 : ℚ) < 2 ^ x.exponent := by positivity
  exact lt_of_lt_of_le (mul_pos (by linarith) hpow) h.above

/-- Measured in units of the last place, a covered number is near the mantissa. -/
theorem Covers.near (h : x.Covers r) :
    x.mantissa - x.reach ≤ r / 2 ^ x.exponent ∧ r / 2 ^ x.exponent ≤ x.mantissa + 1 / 2 := by
  have hpow : (0 : ℚ) < 2 ^ x.exponent := by positivity
  exact ⟨(le_div_iff₀ hpow).2 h.above, (div_le_iff₀ hpow).2 h.below⟩

end Binary

/-! ## Rounding what is covered -/

section Rounding

variable {x : Binary} {num den : Nat}

/-- A ratio in the interval has the bits of the double. -/
theorem nearestBits_of_covers (hx : x.IsDouble) (hne : x.mantissa ≠ 0) (hden : den ≠ 0)
    (h : x.Covers (num / den : ℚ)) : nearestBits num den = x.bits := by
  have hpos := h.pos hne
  have hnum : num ≠ 0 := by
    rintro rfl
    simp at hpos
  obtain ⟨hfrom, hto⟩ := h.near
  have hreach := x.reach_le
  have hpow : (0 : ℚ) < 2 ^ x.exponent := by positivity
  have hmantissa : (x.mantissa : ℚ) + 1 ≤ 2 ^ 53 := by
    have hle : x.mantissa + 1 ≤ 2 ^ 53 := hx.mantissa_lt
    exact_mod_cast hle
  by_cases hbinade : x.exponent = -1074 ∨ (2 : ℚ) ^ 52 ≤ (num / den : ℚ) / 2 ^ x.exponent
  · -- the number is in the binade of the double
    refine nearestBits_eq hnum hden hx.exponent_ge (by linarith) hbinade ?_ (fun htie => ?_)
      (Nat.le_of_lt hx.bits_lt)
    · rw [abs_le]
      constructor <;> linarith
    · -- halfway to a neighbour the number is at an end of the interval
      refine h.even ?_
      rcases (abs_eq (by norm_num)).1 htie with hend | hend
      · right
        rw [← div_eq_iff hpow.ne']
        linarith
      · left
        rw [← div_eq_iff hpow.ne']
        linarith
  · -- the number is in the binade below, so the double is the first one of its own
    push Not at hbinade
    obtain ⟨hplace, hbelow⟩ := hbinade
    have hfirst : x.mantissa = 2 ^ 52 := by
      have hlow := hx.leading.resolve_left hplace
      have hhigh : (x.mantissa : ℚ) < 2 ^ 52 + 1 := by linarith
      have hhigh' : x.mantissa < 2 ^ 52 + 1 := by exact_mod_cast hhigh
      omega
    have hquarter : x.reach = 1 / 4 := if_pos (hx.narrowBelow_iff.2 ⟨hplace, hfirst⟩)
    have hdouble : (num / den : ℚ) / 2 ^ (x.exponent - 1) =
        2 * ((num / den : ℚ) / 2 ^ x.exponent) := by
      rw [zpow_sub_one₀ two_ne_zero]
      field_simp
    rw [hfirst, hquarter] at hfrom
    push_cast at hfrom
    have hleast := hx.exponent_ge
    have hbits : x.bits = (x.exponent - 1 + 1074).toNat * 2 ^ 52 + 2 ^ 53 := by
      rw [Binary.bits, hfirst]
      omega
    have hfinite := hx.bits_lt
    rw [hbits] at hfinite ⊢
    refine nearestBits_eq hnum hden (by omega) ?_ (.inr ?_) ?_ (fun _ => rfl) (Nat.le_of_lt hfinite)
    · rw [hdouble]
      linarith
    · rw [hdouble]
      linarith
    · rw [hdouble, abs_le]
      push_cast
      constructor <;> linarith

end Rounding

/-! ## Decimals -/

/-- The number that a decimal is. -/
def Scientific.value (d : Scientific) : ℚ := d.digits * 10 ^ d.exponent

/-- Exact arithmetic compares the numbers. -/
theorem compareScaled_eq (a : Nat) (i : Int) (b : Nat) (j : Int) :
    compareScaled a i b j = compare ((a : ℚ) * 10 ^ i) (b * 2 ^ j) := by
  have hcommon : (0 : ℚ) < 10 ^ (-i).toNat * 2 ^ (-j).toNat := by positivity
  have hleft : ((a * Nat.pow 10 i.toNat * Nat.pow 2 (-j).toNat : Nat) : ℚ) =
      10 ^ (-i).toNat * 2 ^ (-j).toNat * (a * 10 ^ i) := by
    rw [zpow_eq_div 10]
    push_cast
    simp only [Nat.pow_eq, Nat.cast_pow, Nat.cast_ofNat]
    field_simp
  have hright : ((b * Nat.pow 2 j.toNat * Nat.pow 10 (-i).toNat : Nat) : ℚ) =
      10 ^ (-i).toNat * 2 ^ (-j).toNat * (b * 2 ^ j) := by
    rw [zpow_eq_div 2]
    push_cast
    simp only [Nat.pow_eq, Nat.cast_pow, Nat.cast_ofNat]
    field_simp
  rw [compareScaled, ← cmp_eq_compare, ← cmp_eq_compare,
    ← (Nat.strictMono_cast (α := ℚ)).cmp_map_eq, hleft, hright, cmp_mul_pos_left hcommon]

namespace Binary

variable {x : Binary} {d : Scientific}

/-- What reads back is in the interval. -/
theorem covers_of_readsBack (hne : x.mantissa ≠ 0) (h : x.readsBack d = true) :
    x.Covers d.value := by
  have hlower : (((if x.narrowBelow then 4 * x.mantissa - 1 else 4 * x.mantissa - 2 : Nat) : ℚ)) *
      2 ^ (x.exponent - 2) = (x.mantissa - x.reach) * 2 ^ x.exponent := by
    have hone : 2 ≤ 4 * x.mantissa := by omega
    rw [zpow_sub₀ two_ne_zero, reach]
    split
    · rw [Nat.cast_sub (by omega)]
      push_cast
      ring
    · rw [Nat.cast_sub hone]
      push_cast
      ring
  have hupper : ((4 * x.mantissa + 2 : Nat) : ℚ) * 2 ^ (x.exponent - 2) =
      (x.mantissa + 1 / 2) * 2 ^ x.exponent := by
    rw [zpow_sub₀ two_ne_zero]
    push_cast
    ring
  unfold readsBack at h
  simp only [compareScaled_eq, hlower, hupper, Bool.and_eq_true, Bool.or_eq_true, beq_iff_eq,
    compare_gt_iff_gt, compare_lt_iff_lt, compare_eq_iff_eq] at h
  obtain ⟨hlow, hhigh⟩ := h
  refine ⟨?_, ?_, ?_⟩
  · rcases hlow with hlow | ⟨-, hlow⟩
    · exact le_of_lt hlow
    · exact le_of_eq hlow.symm
  · rcases hhigh with hhigh | ⟨-, hhigh⟩
    · exact le_of_lt hhigh
    · exact le_of_eq hhigh
  · rintro (hend | hend)
    · rcases hlow with hlow | ⟨heven, -⟩
      · exact absurd hend (ne_of_gt hlow)
      · exact heven
    · rcases hhigh with hhigh | ⟨heven, -⟩
      · exact absurd hend (ne_of_lt hhigh)
      · exact heven

end Binary

/-- Factors of ten may be moved to the exponent. -/
theorem Scientific.value_normalize (fuel : Nat) (d : Scientific) :
    (d.normalize fuel).value = d.value := by
  induction fuel generalizing d with
  | zero => rfl
  | succ fuel ih =>
    rw [normalize]
    split
    · rename_i hten
      simp only [Bool.and_eq_true, decide_eq_true_eq] at hten
      have hdigits : (d.digits : ℚ) = 10 * (d.digits / 10 : Nat) := by
        exact_mod_cast (show d.digits = 10 * (d.digits / 10) by omega)
      rw [ih, value, value, zpow_add_one₀ (by norm_num), hdigits]
      push_cast
      ring
    · rfl

namespace Binary

variable {x : Binary}

/-- A double is in its interval. -/
theorem covers_self (x : Binary) : x.Covers (x.mantissa * 2 ^ x.exponent) := by
  have hpow : (0 : ℚ) < 2 ^ x.exponent := by positivity
  have hreach := x.reach_pos
  refine ⟨?_, ?_, ?_⟩
  · gcongr
    linarith
  · gcongr
    linarith
  · rintro (hend | hend)
    · have hmantissa := mul_right_cancel₀ hpow.ne' hend
      linarith
    · have hmantissa := mul_right_cancel₀ hpow.ne' hend
      linarith

theorem value_exactDecimal (x : Binary) : x.exactDecimal.value = x.mantissa * 2 ^ x.exponent := by
  unfold exactDecimal Scientific.value
  split
  · rename_i hexponent
    obtain ⟨n, hn⟩ := Int.eq_ofNat_of_zero_le hexponent
    rw [hn]
    simp
  · rename_i hexponent
    obtain ⟨n, hn⟩ := Int.eq_ofNat_of_zero_le (show 0 ≤ -x.exponent by omega)
    have hexponent' : x.exponent = -(n : Int) := by omega
    rw [hexponent']
    have hten : (10 : ℚ) ^ n = 5 ^ n * 2 ^ n := by
      rw [← mul_pow]
      norm_num
    simp only [Nat.pow_eq, Nat.cast_mul, Nat.cast_pow, zpow_neg, zpow_natCast, neg_neg,
      Int.toNat_natCast, Nat.cast_ofNat, hten]
    field_simp

/-- The shortest decimal is in the interval. -/
theorem covers_shortest (hne : x.mantissa ≠ 0) : x.Covers x.shortest.value := by
  unfold shortest
  simp only [if_neg hne]
  split
  · rename_i d hfound
    obtain ⟨n, -, hgrid⟩ := List.exists_of_findSome?_eq_some hfound
    rw [Scientific.value_normalize]
    exact covers_of_readsBack hne (readsBack_of_onGrid hgrid)
  · rw [value_exactDecimal]
    exact covers_self x

end Binary

/-! ## Reading decimals -/

section Reading

variable {x : Binary} {d : Scientific} {r : ℚ}

/-- What is covered by a double is in the range of doubles. -/
theorem Binary.Covers.range (h : x.Covers r) (hx : x.IsDouble) (hne : x.mantissa ≠ 0) :
    (2 : ℚ) ^ (-1075 : Int) ≤ r ∧ r ≤ 2 ^ (1024 : Int) := by
  have hreach := x.reach_le
  have hone : (1 : ℚ) ≤ x.mantissa := by
    exact_mod_cast Nat.one_le_iff_ne_zero.2 hne
  have hmantissa : (x.mantissa : ℚ) + 1 ≤ 2 ^ (53 : Int) := by
    have hle : x.mantissa + 1 ≤ 2 ^ 53 := hx.mantissa_lt
    exact_mod_cast hle
  have hhalf : (2 : ℚ) ^ (-1 : Int) ≤ x.mantissa - x.reach := by
    norm_num
    linarith
  have hleast : (2 : ℚ) ^ (-1074 : Int) ≤ 2 ^ x.exponent :=
    zpow_le_zpow_right₀ one_le_two hx.exponent_ge
  have hlargest : (2 : ℚ) ^ x.exponent ≤ 2 ^ (971 : Int) :=
    zpow_le_zpow_right₀ one_le_two hx.exponent_le
  constructor
  · have hsum : (-1075 : Int) = -1 + -1074 := rfl
    calc (2 : ℚ) ^ (-1075 : Int) = 2 ^ (-1 : Int) * 2 ^ (-1074 : Int) := by
          rw [hsum, zpow_add₀ two_ne_zero]
      _ ≤ (x.mantissa - x.reach) * 2 ^ x.exponent :=
          mul_le_mul hhalf hleast (zpow_pos two_pos _).le (by linarith)
      _ ≤ r := h.above
  · have hsum : (1024 : Int) = 53 + 971 := rfl
    calc r ≤ (x.mantissa + 1 / 2) * 2 ^ x.exponent := h.below
      _ ≤ 2 ^ (53 : Int) * 2 ^ (971 : Int) :=
          mul_le_mul (by linarith) hlargest (zpow_pos two_pos _).le (zpow_pos two_pos _).le
      _ = 2 ^ (1024 : Int) := by rw [hsum, zpow_add₀ two_ne_zero]

/-- Ten is more than the third power of two. -/
theorem two_zpow_le_ten_zpow {k : Int} (hk : 0 ≤ k) : (2 : ℚ) ^ (3 * k) ≤ 10 ^ k := by
  rw [zpow_mul]
  exact zpow_le_zpow_left₀ hk (by norm_num) (by norm_num)

/-- The shortcuts for decimals beyond the range of doubles are not taken in it. -/
theorem exponent_bounds (hdigits : d.digits ≠ 0) (hlow : (2 : ℚ) ^ (-1075 : Int) ≤ d.value)
    (hhigh : d.value ≤ 2 ^ (1024 : Int)) :
    d.exponent ≤ 400 ∧ -400 ≤ d.exponent + (d.digits.log2 : Int) := by
  have hten : (0 : ℚ) < 10 ^ d.exponent := by positivity
  constructor
  · by_contra hlarge
    have hone : (1 : ℚ) ≤ d.digits := by
      exact_mod_cast Nat.one_le_iff_ne_zero.2 hdigits
    have habove : (2 : ℚ) ^ (1024 : Int) < d.value := by
      calc (2 : ℚ) ^ (1024 : Int) < 2 ^ (3 * d.exponent) :=
            zpow_lt_zpow_right₀ one_lt_two (by omega)
        _ ≤ 10 ^ d.exponent := two_zpow_le_ten_zpow (by omega)
        _ ≤ d.value := le_mul_of_one_le_left hten.le hone
    exact absurd hhigh (not_le.2 habove)
  · by_contra hsmall
    have hlog : (d.digits : ℚ) < 2 ^ ((d.digits.log2 : Int) + 1) := by
      exact_mod_cast Nat.lt_log2_self (n := d.digits)
    have hinverse : (10 : ℚ) ^ d.exponent ≤ 2 ^ (3 * d.exponent) := by
      have hpositive := two_zpow_le_ten_zpow (show 0 ≤ -d.exponent by omega)
      rw [mul_neg, zpow_neg, zpow_neg, inv_le_inv₀ (by positivity) hten] at hpositive
      exact hpositive
    have hbelow : d.value < 2 ^ (-1075 : Int) := by
      calc d.value < 2 ^ ((d.digits.log2 : Int) + 1) * 10 ^ d.exponent :=
            mul_lt_mul_of_pos_right hlog hten
        _ ≤ 2 ^ ((d.digits.log2 : Int) + 1) * 2 ^ (3 * d.exponent) := by gcongr
        _ = 2 ^ ((d.digits.log2 : Int) + 1 + 3 * d.exponent) := (zpow_add₀ two_ne_zero _ _).symm
        _ ≤ 2 ^ (-1075 : Int) := zpow_le_zpow_right₀ one_le_two (by omega)
    exact absurd hlow (not_le.2 hbelow)

/-- A decimal in the interval of a double is read as the double. -/
theorem decimalBits_of_covers (hx : x.IsDouble) (hne : x.mantissa ≠ 0) (h : x.Covers d.value) :
    decimalBits d.digits d.exponent = x.bits := by
  have hpos := h.pos hne
  have hdigits : d.digits ≠ 0 := by
    intro hzero
    simp [Scientific.value, hzero] at hpos
  obtain ⟨hlow, hhigh⟩ := h.range hx hne
  obtain ⟨hexponent, hlog⟩ := exponent_bounds hdigits hlow hhigh
  unfold decimalBits
  rw [if_neg hdigits, if_neg (by omega), if_neg (by omega)]
  refine nearestBits_of_covers hx hne (by simp) ?_
  have hvalue : ((d.digits * Nat.pow 10 d.exponent.toNat : Nat) : ℚ) /
      (Nat.pow 10 (-d.exponent).toNat : Nat) = d.value := by
    rw [Scientific.value, zpow_eq_div 10]
    push_cast
    simp only [Nat.pow_eq, Nat.cast_pow, Nat.cast_ofNat]
    field_simp
  rw [hvalue]
  exact h

end Reading

end DeskCalculator
