import DeskCalculator.Proofs.Decimal.Unpacked
import DeskCalculator.Proofs.RoundTrip
import Mathlib

/-!
# What is displayed is faithful

A whole double is displayed as an integer with all its digits, and any other double by the fewest
digits that read back.  Either text is read as the double, but for the sign of a zero, so two
doubles have the same text only if they are equal.  And what is displayed of a double that is
neither negative nor too near to zero can be typed in again.

* `Binary.toNat?_eq_some`, `decimalBits_of_toNat?` — a whole number is exact and read as the double.
* `readFloat?_displayText` — what is displayed is read as the double, without the sign of a zero.
* `Scientific.isPointNumber_text` — the layouts with a point are plain numbers.
* `isPointNumber_fullText` — a double that is not whole is laid out so from `1e-4` on.
* `display_text_faithful` — what all this says about the text that is displayed.
-/

namespace DeskCalculator

variable {v w : Float}

/-! ## Whole numbers -/

section Whole

variable {x : Binary} {k : Nat}

/-- The whole number that a magnitude is. -/
theorem Binary.toNat?_eq_some (h : x.toNat? = some k) :
    (k : ℚ) = x.mantissa * 2 ^ x.exponent := by
  unfold toNat? at h
  rw [zpow_eq_div]
  split at h
  next hexponent =>
    have hzero : (-x.exponent).toNat = 0 := by omega
    obtain rfl := Option.some.inj h
    rw [hzero]
    push_cast
    simp
  next hexponent =>
    have hzero : x.exponent.toNat = 0 := by omega
    simp only at h
    split at h
    next hmod =>
      obtain rfl := Option.some.inj h
      rw [Nat.cast_div (Nat.dvd_of_mod_eq_zero hmod) (by simp), hzero]
      simp [div_eq_mul_inv]
    next => cases h

/-- A magnitude that is no whole number has places behind the point. -/
theorem Binary.exponent_neg_of_toNat? (h : x.toNat? = none) : x.exponent < 0 := by
  by_contra hge
  rw [toNat?, if_pos (not_lt.1 hge)] at h
  cases h

/-- A whole number is read as the double that it is. -/
theorem decimalBits_of_toNat? (hx : x.IsDouble) (hne : x.mantissa ≠ 0) (h : x.toNat? = some k) :
    decimalBits k 0 = x.bits := by
  refine decimalBits_of_covers (d := ⟨k, 0⟩) hx hne ?_
  have hvalue : Scientific.value ⟨k, 0⟩ = x.mantissa * 2 ^ x.exponent := by
    rw [Scientific.value, zpow_zero, mul_one, Binary.toNat?_eq_some h]
  rw [hvalue]
  exact x.covers_self

/-- A magnitude other than zero is no zero as a whole number. -/
theorem ne_zero_of_toNat? (hne : x.mantissa ≠ 0) (h : x.toNat? = some k) : k ≠ 0 := by
  rintro rfl
  have hvalue := Binary.toNat?_eq_some h
  rw [Nat.cast_zero, eq_comm, mul_eq_zero, Nat.cast_eq_zero] at hvalue
  exact hvalue.elim hne (zpow_ne_zero _ two_ne_zero)

end Whole

/-! ## Reading what is displayed -/

section Reading

variable {k : Nat} {s : List Char}

/-- A text that begins with a digit is read with the sign in front of it, if there is one. -/
theorem readFloat?_signed (negative : Bool) (hnumeral : ∀ c ∈ s, isNumeralChar c = true)
    (hhead : ∃ c rest, s = c :: rest ∧ isDigit c = true) :
    readFloat? (if negative then '-' :: s else s) = readMagnitude? negative s := by
  obtain ⟨c, rest, rfl, hc⟩ := hhead
  cases negative with
  | true =>
    have hplain : dropUnderscores? false (trimWhiteSpace (('-' :: c :: rest).map toAsciiDigit)) =
        some ('-' :: c :: rest) :=
      plain_of_isNumeralChar (List.forall_mem_cons.2 ⟨rfl, hnumeral⟩)
    rw [if_pos rfl, readFloat?, hplain]
    rfl
  | false => exact readFloat?_of_plain_cons (plain_of_isNumeralChar hnumeral) hc

theorem isNumber_natText (k : Nat) : isNumber (natText k) = true :=
  isNumber_iff.2 ⟨natText k, [], (List.append_nil _).symm, natText_ne_nil k,
    fun _ hc => isDigit_of_mem_natText hc, .inl rfl⟩

/-- The digits of a number are read as the double next to it. -/
theorem readMagnitude?_natText (negative : Bool) (k : Nat) :
    readMagnitude? negative (natText k) = some (ofDecimal negative k 0) := by
  have hread : readNumeral? (natText k) = some (k, 0) := by
    obtain ⟨htake, hdrop⟩ := takeWhile_dropWhile_append (l := natText k) (m := [])
      (fun c hc => isDigit_of_mem_natText hc) (by simp)
    rw [List.append_nil] at htake hdrop
    simp [readNumeral?, spanDigits, readExponent?, htake, hdrop, natText_ne_nil,
      digitsValue_natText]
  obtain ⟨c, rest, htext, hc⟩ := head_of_isNumber (isNumber_natText k)
  rw [htext, readMagnitude?_cons negative hc, ← htext, hread, Option.map_some]

theorem wholeNumber?_of_isFinite (h : v.isFinite = true) : wholeNumber? v =
    (Binary.ofFloat v).toNat?.map fun (k : Nat) => if signBit v then -(k : Int) else k := by
  rw [wholeNumber?, if_pos h]
  cases (Binary.ofFloat v).toNat? <;> rfl

theorem isFinite_of_wholeNumber? {n : Int} (h : wholeNumber? v = some n) : v.isFinite = true := by
  by_contra hnot
  rw [wholeNumber?, if_neg hnot] at h
  cases h

/-- A whole double other than zero is displayed as its digits, with a sign if it is negative. -/
theorem displayText_of_whole (hfinite : v.isFinite = true) (h : ¬ (v == 0) = true)
    (hwhole : (Binary.ofFloat v).toNat? = some k) :
    displayText v = if signBit v then '-' :: natText k else natText k := by
  have hk := ne_zero_of_toNat? (mantissa_ne_zero hfinite h) hwhole
  obtain ⟨n, rfl⟩ := Nat.exists_eq_succ_of_ne_zero hk
  rw [displayText, wholeNumber?_of_isFinite hfinite, hwhole, Option.map_some]
  cases signBit v <;> rfl

/-- A double without a whole number is displayed by the fewest digits that read back. -/
theorem displayText_of_not_whole (h : wholeNumber? v = none) : displayText v = fullText v := by
  rw [displayText, h]

/-- A zero is displayed without its sign. -/
theorem displayText_of_zero (h : (v == 0) = true) : displayText v = ['0'] := by
  obtain ⟨negative, rfl⟩ := eq_floatOfBits_of_eq_zero h
  cases negative <;> decide +kernel

/-- A zero is displayed as any other one. -/
theorem displayText_unsignZero (v : Float) : displayText (unsignZero v) = displayText v := by
  by_cases hzero : (v == 0) = true
  · rw [unsignZero_of_zero hzero, displayText_of_zero hzero, displayText_of_zero rfl]
  · rw [unsignZero_of_not_zero hzero]

/-- **What is displayed is read as the double**, without the sign of a zero. -/
theorem readFloat?_displayText (v : Float) : readFloat? (displayText v) = some (unsignZero v) := by
  by_cases hzero : (v == 0) = true
  · rw [displayText_of_zero hzero, unsignZero_of_zero hzero]
    rfl
  rw [unsignZero_of_not_zero hzero]
  cases hwhole : wholeNumber? v with
  | none => rw [displayText_of_not_whole hwhole, readFloat?_fullText]
  | some n =>
    have hfinite := isFinite_of_wholeNumber? hwhole
    rw [wholeNumber?_of_isFinite hfinite, Option.map_eq_some_iff] at hwhole
    obtain ⟨k, hk, -⟩ := hwhole
    rw [displayText_of_whole hfinite hzero hk,
      readFloat?_signed _ isNumeralChar_of_mem_natText (head_of_isNumber (isNumber_natText k)),
      readMagnitude?_natText, ofDecimal,
      decimalBits_of_toNat? (isDouble_ofFloat hfinite) (mantissa_ne_zero hfinite hzero) hk,
      floatOfBits_bits]

end Reading

/-! ## Plain numbers -/

section Layout

variable {d : Scientific}

/-- The layouts with a point have digits on both sides of it. -/
theorem Scientific.isPointNumber_text
    (h : inPointNotation (d.exponent + ((natText d.digits).length : Int) - 1) = true) :
    IsPointNumber d.text := by
  have hdigits : ∀ c ∈ natText d.digits, isDigit c = true := fun _ hc => isDigit_of_mem_natText hc
  have hne := natText_ne_nil d.digits
  unfold text
  simp only [h, if_true]
  split
  next hwhole =>
    refine ⟨_, ['0'], rfl, by simp [hne], by simp, ?_⟩
    simp only [List.all_eq_true, List.forall_mem_append, List.forall_mem_singleton]
    exact ⟨⟨hdigits, isDigit_of_mem_zeros _⟩, rfl⟩
  next hplaces =>
    split
    next hleading =>
      refine ⟨_, _, rfl, ?_, ?_, ?_⟩
      · simp only [ne_eq, List.take_eq_nil_iff, hne, or_false]
        omega
      · simp only [ne_eq, List.drop_eq_nil_iff]
        omega
      · rw [List.take_append_drop, List.all_eq_true]
        exact hdigits
    next hleading =>
      refine ⟨['0'], _, rfl, by simp, by simp [hne], ?_⟩
      simp only [List.all_eq_true, List.forall_mem_append, List.forall_mem_singleton]
      exact ⟨rfl, isDigit_of_mem_zeros _, hdigits⟩

/-- The first digit of a decimal stands for the largest power of ten that is not above it. -/
theorem Scientific.leading_bounds {low high : Int} (hdigits : d.digits ≠ 0)
    (hlow : (10 : ℚ) ^ low ≤ d.value) (hhigh : d.value < 10 ^ high) :
    low ≤ d.exponent + ((natText d.digits).length : Int) - 1 ∧
      d.exponent + ((natText d.digits).length : Int) - 1 < high := by
  obtain ⟨n, hn⟩ : ∃ n, (natText d.digits).length = n + 1 :=
    Nat.exists_eq_succ_of_ne_zero (by simpa using natText_ne_nil d.digits)
  have hten : (0 : ℚ) < 10 ^ d.exponent := by positivity
  have hbelow : (d.digits : ℚ) < 10 ^ (n + 1) := by
    exact_mod_cast (Nat.length_toDigits_le_iff (by decide) n.succ_pos).1 (le_of_eq hn)
  have habove : (10 : ℚ) ^ n ≤ d.digits := by
    rcases Nat.eq_zero_or_pos n with rfl | hpos
    · exact_mod_cast Nat.one_le_iff_ne_zero.2 hdigits
    · by_contra hless
      have hlt : d.digits < 10 ^ n := by exact_mod_cast not_le.1 hless
      have hshort : (natText d.digits).length ≤ n :=
        (Nat.length_toDigits_le_iff (by decide) hpos).2 hlt
      omega
  have hfrom : (10 : ℚ) ^ low < 10 ^ (n + 1 + d.exponent) := by
    calc (10 : ℚ) ^ low ≤ d.digits * 10 ^ d.exponent := hlow
      _ < 10 ^ (n + 1) * 10 ^ d.exponent := mul_lt_mul_of_pos_right hbelow hten
      _ = 10 ^ (n + 1 + d.exponent) := by
          rw [zpow_add₀ (by norm_num)]
          norm_cast
  have hto : (10 : ℚ) ^ (n + d.exponent) < 10 ^ high := by
    calc (10 : ℚ) ^ (n + d.exponent) = 10 ^ n * 10 ^ d.exponent := by
          rw [zpow_add₀ (by norm_num), zpow_natCast]
      _ ≤ d.digits * 10 ^ d.exponent := mul_le_mul_of_nonneg_right habove hten.le
      _ < 10 ^ high := hhigh
  rw [zpow_lt_zpow_iff_right₀ (by norm_num)] at hfrom hto
  omega

end Layout

/-! ## From `1e-4` on -/

/-- A magnitude with places behind the point is laid out with a point if it is above `1e-4`, which
is `7378697629483821 * 2 ^ -66` as a double. -/
theorem Binary.inPointNotation_shortest {x : Binary} (hx : x.IsDouble) (hplaces : x.exponent < 0)
    (h : -66 < x.exponent ∨ -66 = x.exponent ∧ 7378697629483821 < x.mantissa) :
    inPointNotation (x.shortest.exponent + ((natText x.shortest.digits).length : Int) - 1) =
      true := by
  have hne : x.mantissa ≠ 0 := by
    have hleading := hx.leading
    omega
  have hcovers := covers_shortest hne
  have hreach := x.reach_le
  have hlow : (10 : ℚ) ^ (-4 : Int) ≤ x.shortest.value := by
    refine le_trans ?_ hcovers.above
    rcases h with hexponent | ⟨hexponent, hmantissa⟩
    · have hleading : (2 : ℚ) ^ 52 ≤ x.mantissa := by
        exact_mod_cast hx.leading.resolve_left (by omega)
      calc (10 : ℚ) ^ (-4 : Int) ≤ (2 ^ 52 - 1 / 2) * 2 ^ (-65 : Int) := by norm_num
        _ ≤ (x.mantissa - x.reach) * 2 ^ x.exponent :=
            mul_le_mul (by linarith) (zpow_le_zpow_right₀ one_le_two hexponent)
              (by positivity) (by linarith)
    · have hmantissa' : (7378697629483821 : ℚ) + 1 ≤ x.mantissa := by exact_mod_cast hmantissa
      rw [← hexponent]
      calc (10 : ℚ) ^ (-4 : Int) ≤ (7378697629483821 + 1 / 2) * 2 ^ (-66 : Int) := by norm_num
        _ ≤ (x.mantissa - x.reach) * 2 ^ (-66 : Int) := by
            gcongr
            linarith
  have hhigh : x.shortest.value < 10 ^ (16 : Int) := by
    have hmantissa : (x.mantissa : ℚ) + 1 ≤ 2 ^ 53 := by
      exact_mod_cast (show x.mantissa + 1 ≤ 2 ^ 53 from hx.mantissa_lt)
    calc x.shortest.value ≤ (x.mantissa + 1 / 2) * 2 ^ x.exponent := hcovers.below
      _ ≤ 2 ^ 53 * 2 ^ (-1 : Int) :=
          mul_le_mul (by linarith) (zpow_le_zpow_right₀ one_le_two (by omega))
            (by positivity) (by positivity)
      _ < 10 ^ (16 : Int) := by norm_num
  have hdigits : x.shortest.digits ≠ 0 := by
    intro hzero
    have hpos := hcovers.pos hne
    simp [Scientific.value, hzero] at hpos
  obtain ⟨hfrom, hto⟩ := Scientific.leading_bounds hdigits hlow hhigh
  simp only [inPointNotation, Bool.and_eq_true, decide_eq_true_eq]
  exact ⟨hfrom, hto⟩

/-- A double that is not whole is a plain number from `1e-4` on. -/
theorem isPointNumber_fullText (hfinite : v.isFinite = true) (hwhole : wholeNumber? v = none)
    (h : 1e-4 ≤ v) : IsPointNumber (fullText v) := by
  by_cases hleast : v = 1e-4
  · rw [hleast]
    exact ⟨['0'], ['0', '0', '0', '1'], rfl, by simp, by simp, rfl⟩
  have hbound : (1e-4 : Float).toModel.unpack =
      .finite .positive 7378697629483821 (-66) (by decide) := rfl
  obtain ⟨m, e, hm, hunpack, hle⟩ := unpack_of_finite_le hbound hfinite h
  obtain ⟨-, hmantissa, hexponent⟩ := ofFloat_of_unpack hunpack
  have hnone : (Binary.ofFloat v).toNat? = none := by
    rw [wholeNumber?_of_isFinite hfinite, Option.map_eq_none_iff] at hwhole
    exact hwhole
  rw [fullText_of_isFinite hfinite, signBit_of_positive hunpack, if_neg Bool.false_ne_true]
  refine Scientific.isPointNumber_text (Binary.inPointNotation_shortest (isDouble_ofFloat hfinite)
    (Binary.exponent_neg_of_toNat? hnone) ?_)
  rw [hmantissa, hexponent]
  refine hle.imp_right fun ⟨hsame, hless⟩ => ⟨hsame, lt_of_le_of_ne hless ?_⟩
  -- the same exponent and mantissa are the same double
  rintro rfl
  subst hsame
  exact hleast (eq_of_unpack hunpack)

/-- What is displayed of a double that is not below zero and not too near to it is a number. -/
theorem isNumber_displayText (hfinite : v.isFinite = true) (hsign : 0 ≤ v)
    (h : (wholeNumber? v).isSome = true ∨ 1e-4 ≤ v) : isNumber (displayText v) = true := by
  by_cases hzero : (v == 0) = true
  · rw [displayText_of_zero hzero]
    rfl
  cases hwhole : wholeNumber? v with
  | none =>
    rw [hwhole] at h
    rw [displayText_of_not_whole hwhole]
    exact (isPointNumber_fullText hfinite hwhole (h.resolve_left Bool.false_ne_true)).isNumber
  | some n =>
    obtain ⟨m, e, hm, hunpack⟩ := (unpack_of_zero_le hfinite hsign).resolve_left hzero
    rw [wholeNumber?_of_isFinite hfinite, Option.map_eq_some_iff] at hwhole
    obtain ⟨k, hk, -⟩ := hwhole
    rw [displayText_of_whole hfinite hzero hk, signBit_of_positive hunpack,
      if_neg Bool.false_ne_true]
    exact isNumber_natText k

/-! ## The theorem -/

/-- **What is displayed is faithful.**  The text of a double that is a number at all, infinite ones
among them, is read as an equal double, and two doubles have the same text if and only if they are
equal, so only the sign of a zero is lost.  If a finite double is not below zero, and is whole or at
least `1e-4`, then its text can stand as an operand, and has an equal value there. -/
theorem display_text_faithful :
    (∀ v : Float, v.isNaN = false →
      ∃ w, readFloat? (displayText v) = some w ∧ (w == v) = true) ∧
    (∀ v w : Float, v.isNaN = false → w.isNaN = false →
      (displayText v = displayText w ↔ (v == w) = true)) ∧
    ∀ (last? : Option Float) (v : Float), v.isFinite = true → 0 ≤ v →
      (wholeNumber? v).isSome = true ∨ 1e-4 ≤ v →
      ∃ w, resolve last? (displayText v) = .ok w ∧ (w == v) = true := by
  refine ⟨fun v hv => ⟨_, readFloat?_displayText v, unsignZero_beq hv⟩, fun v w hv _ => ?_,
    fun last? v hfinite hsign h => ?_⟩
  · rw [beq_iff_unsignZero hv]
    constructor
    · intro htext
      have hreads := readFloat?_displayText v
      rw [htext, readFloat?_displayText w] at hreads
      exact (Option.some.inj hreads).symm
    · intro hsame
      rw [← displayText_unsignZero v, hsame, displayText_unsignZero w]
  · have hnumber := isNumber_displayText hfinite hsign h
    have hreads := readFloat?_displayText v
    rw [readFloat?_of_isNumber hnumber] at hreads
    refine ⟨_, resolve_of_isNumber last? hnumber, ?_⟩
    rw [Option.some.inj hreads]
    exact unsignZero_beq (isNaN_of_isFinite hfinite)

/-- The theorem at the edges between the notations: the double next to `1e-5` has an exponent, the
one next to `1e-4` a point, `1e22` is written in full, and so is a zero of either sign. -/
theorem display_text_faithful_edges :
    displayText 1e-5 = "1e-05".toList ∧ displayText 1e-4 = "0.0001".toList ∧
      displayText 1e22 = "10000000000000000000000".toList ∧
      (∃ w, readFloat? (displayText 1e-5) = some w ∧ (w == 1e-5) = true) ∧
      (∃ w, resolve none (displayText 1e-4) = .ok w ∧ (w == 1e-4) = true) ∧
      (∃ w, resolve none (displayText 1e22) = .ok w ∧ (w == 1e22) = true) ∧
      displayText (floatOfBits true 0) = displayText 0 := by
  obtain ⟨hreads, hsame, hresolves⟩ := display_text_faithful
  have hzeros : (floatOfBits true 0 == 0) = true := rfl
  exact ⟨by decide +kernel, by decide +kernel, by decide +kernel, hreads 1e-5 rfl,
    hresolves none 1e-4 rfl (by decide +kernel) (.inr (by decide +kernel)),
    hresolves none 1e22 rfl (by decide +kernel) (.inl (by decide +kernel)),
    (hsame _ 0 rfl rfl).2 hzeros⟩

end DeskCalculator
