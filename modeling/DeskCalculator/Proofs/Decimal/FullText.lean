import DeskCalculator.Proofs.Decimal.Interval
import DeskCalculator.Proofs.Decimal.Numeral
import DeskCalculator.Proofs.Decimal.Words
import Mathlib

/-!
# Every double is read back from its text

The text of a finite double lays out the shortest decimal that is next to the double, and the reader
rounds what a text writes.  So the double comes back, whichever notation its text has.

* `toNat_toBits` — a double is the bits of its magnitude and a sign.
* `Scientific.isWrittenBy_text` — the layout of a decimal is read as the same number.
* `decimalBits_of_value_eq` — and this number is rounded to the double.
* `readFloat?_fullText` — the round trip.
-/

namespace DeskCalculator

open Float.Model (Format UnpackedFloat)

/-! ## The bits of a double -/

section Bits

variable {v : Float}

theorem bitFields_eq (bits : UInt64) :
    bitFields bits = (bits.toNat / 2 ^ 52 % 2 ^ 11, bits.toNat % 2 ^ 52) := by
  have hfield : ((bits >>> 52) &&& 0x7FF).toNat = bits.toNat / 2 ^ 52 % 2 ^ 11 := by
    rw [UInt64.toNat_and, UInt64.toNat_shiftRight, Nat.shiftRight_eq_div_pow]
    exact Nat.and_two_pow_sub_one_eq_mod _ 11
  have hfraction : (bits &&& 0xFFFFFFFFFFFFF).toNat = bits.toNat % 2 ^ 52 := by
    rw [UInt64.toNat_and]
    exact Nat.and_two_pow_sub_one_eq_mod _ 52
  rw [bitFields, hfield, hfraction]

theorem signBit_iff : signBit v = true ↔ 2 ^ 63 ≤ v.toBits.toNat := by
  have hlt := v.toBits.toNat_lt
  have hshift : (v.toBits >>> 63).toNat = v.toBits.toNat / 2 ^ 63 := by
    rw [UInt64.toNat_shiftRight, Nat.shiftRight_eq_div_pow]
    rfl
  rw [signBit, beq_iff_eq, ← UInt64.toNat_inj, hshift]
  show v.toBits.toNat / 2 ^ 63 = 1 ↔ _
  omega

/-- The exponent field of a finite double is not the last one. -/
theorem field_lt (h : v.isFinite = true) : v.toBits.toNat / 2 ^ 52 % 2 ^ 11 < 2047 := by
  by_contra hge
  have hexponent : (UnpackedFloat.unpackExponent v.toBits.toBitVec :
      BitVec Format.binary64.exponentBits) = -1#11 := by
    refine BitVec.eq_of_toNat_eq ?_
    rw [UnpackedFloat.unpackExponent_def, BitVec.extractLsb'_toNat, Nat.shiftRight_eq_div_pow]
    show v.toBits.toNat / 2 ^ 52 % 2 ^ 11 = 2047
    omega
  have hfinite : (UnpackedFloat.unpack Format.binary64 v.toBits.toBitVec).isFinite = true := h
  unfold UnpackedFloat.unpack at hfinite
  simp only [hexponent, if_true] at hfinite
  split at hfinite <;> cases hfinite

/-- The magnitude of a finite double is one. -/
theorem isDouble_ofFloat (h : v.isFinite = true) : (Binary.ofFloat v).IsDouble := by
  have hfield := field_lt h
  unfold Binary.ofFloat Binary.ofBits
  rw [bitFields_eq]
  generalize v.toBits.toNat / 2 ^ 52 % 2 ^ 11 = field at hfield ⊢
  have hfraction : v.toBits.toNat % 2 ^ 52 < 2 ^ 52 := Nat.mod_lt _ (by decide)
  generalize v.toBits.toNat % 2 ^ 52 = fraction at hfraction ⊢
  dsimp only
  split
  · exact
      { mantissa_lt := show fraction < 2 ^ 53 by omega
        exponent_ge := Int.le_refl (-1074)
        exponent_le := show (-1074 : Int) ≤ 971 by omega
        leading := .inl rfl
        narrowBelow_iff := by simp }
  · exact
      { mantissa_lt := show 2 ^ 52 + fraction < 2 ^ 53 by omega
        exponent_ge := show -1074 ≤ (field : Int) - 1075 by omega
        exponent_le := show (field : Int) - 1075 ≤ 971 by omega
        leading := .inr (Nat.le_add_right (2 ^ 52) fraction)
        narrowBelow_iff := by
          simp only [Bool.and_eq_true, beq_iff_eq, decide_eq_true_eq, Nat.pow_eq]
          omega }

/-- A double is the bits of its magnitude and a sign. -/
theorem toNat_toBits (v : Float) :
    v.toBits.toNat = (if signBit v then 2 ^ 63 else 0) + (Binary.ofFloat v).bits := by
  have hlt := v.toBits.toNat_lt
  have hbits : (Binary.ofFloat v).bits =
      v.toBits.toNat / 2 ^ 52 % 2 ^ 11 * 2 ^ 52 + v.toBits.toNat % 2 ^ 52 := by
    unfold Binary.ofFloat Binary.ofBits Binary.bits
    rw [bitFields_eq]
    dsimp only
    split
    · dsimp only
      omega
    · simp only [Nat.pow_eq]
      omega
  rw [hbits]
  by_cases hnegative : signBit v = true
  · have hge := signBit_iff.1 hnegative
    rw [if_pos hnegative]
    omega
  · have hge := mt signBit_iff.2 hnegative
    rw [if_neg hnegative]
    omega

theorem floatOfBits_bits (v : Float) : floatOfBits (signBit v) (Binary.ofFloat v).bits = v := by
  have hbits : (if signBit v then Nat.pow 2 63 + (Binary.ofFloat v).bits
      else (Binary.ofFloat v).bits) = v.toBits.toNat := by
    rw [toNat_toBits]
    split
    · rfl
    · exact (Nat.zero_add _).symm
  rw [floatOfBits, hbits, UInt64.ofNat_toNat]
  obtain ⟨⟨bits, hvalid⟩⟩ := v
  have hpack : UnpackedFloat.pack Format.binary64
      (UnpackedFloat.unpack Format.binary64 bits.toBitVec) = bits.toBitVec :=
    UnpackedFloat.pack_unpack_of_valid hvalid
  have hsame : UInt64.ofBitVec (UnpackedFloat.pack Format.binary64
      (UnpackedFloat.unpack Format.binary64 bits.toBitVec)) = bits := by
    rw [hpack]
  simp only [Float.ofBits, Float.Model.ofBits, Float.Model.pack, Float.toBits, hsame]

end Bits

/-! ## The layout of a decimal -/

section Layout

variable {whole fraction tail : List Char} {d : Scientific}

theorem digitsValue_natText (n : Nat) : digitsValue (natText n) = n :=
  Nat.ofDigitChars_ten_toDigits

theorem digitsValue_append (s t : List Char) :
    digitsValue (s ++ t) = digitsValue s * 10 ^ t.length + digitsValue t := by
  show Nat.ofDigitChars 10 (s ++ t) 0 = Nat.ofDigitChars 10 s 0 * _ + Nat.ofDigitChars 10 t 0
  rw [Nat.ofDigitChars_append, Nat.ofDigitChars_eq_ofDigitChars_zero, Nat.mul_comm]

theorem digitsValue_zeros (n : Nat) : digitsValue (List.replicate n '0') = 0 :=
  Nat.ofDigitChars_replicate_zero

theorem natText_ne_nil (n : Nat) : natText n ≠ [] := Nat.toDigits_ne_nil

/-- A numeral with a point. -/
theorem readNumeral?_point (hne : whole ≠ []) (hwhole : ∀ c ∈ whole, isDigit c = true)
    (hfraction : ∀ c ∈ fraction, isDigit c = true) (htail : ∀ c ∈ tail.head?, isDigit c = false) :
    readNumeral? (whole ++ '.' :: (fraction ++ tail)) =
      (readExponent? tail).map fun e =>
        (digitsValue (whole ++ fraction), e - (fraction.length : Int)) := by
  obtain ⟨htake, hdrop⟩ := takeWhile_dropWhile_append (m := '.' :: (fraction ++ tail)) hwhole
    (by rintro c hc; cases hc; decide)
  obtain ⟨htake', hdrop'⟩ := takeWhile_dropWhile_append hfraction htail
  have hempty : whole.isEmpty = false := by simpa using hne
  simp [readNumeral?, spanDigits, htake, hdrop, htake', hdrop', hempty]

/-- A numeral without a point. -/
theorem readNumeral?_mark (hne : whole ≠ []) (hwhole : ∀ c ∈ whole, isDigit c = true)
    (power : List Char) : readNumeral? (whole ++ 'e' :: power) =
      (readExponent? ('e' :: power)).map fun e => (digitsValue whole, e) := by
  obtain ⟨htake, hdrop⟩ := takeWhile_dropWhile_append (m := 'e' :: power) hwhole
    (by rintro c hc; cases hc; decide)
  have hempty : whole.isEmpty = false := by simpa using hne
  simp [readNumeral?, spanDigits, htake, hdrop, hempty]

/-- The exponent that is written is read. -/
theorem readExponent?_exponentText (e : Int) : readExponent? ('e' :: exponentText e) = some e := by
  obtain ⟨padded, hpadded⟩ : ∃ padded, padded =
      if (natText e.natAbs).length < 2 then '0' :: natText e.natAbs else natText e.natAbs :=
    ⟨_, rfl⟩
  have htext : exponentText e = (if e < 0 then '-' else '+') :: padded := by
    rw [hpadded]
    rfl
  have hne : padded.isEmpty = false := by
    rw [hpadded]
    split
    · rfl
    · simpa using natText_ne_nil e.natAbs
  have hdigits : padded.all isDigit = true := by
    rw [hpadded, List.all_eq_true]
    split
    · exact List.forall_mem_cons.2 ⟨rfl, fun c hc => isDigit_of_mem_natText hc⟩
    · exact fun c hc => isDigit_of_mem_natText hc
  have hvalue : digitsValue padded = e.natAbs := by
    rw [hpadded]
    split
    · rw [← List.singleton_append, digitsValue_append, digitsValue_natText]
      show 0 * _ + e.natAbs = e.natAbs
      omega
    · exact digitsValue_natText _
  rw [htext]
  by_cases hnegative : e < 0
  · rw [if_pos hnegative]
    simp [readExponent?, hne, hdigits, hvalue, abs_of_neg hnegative]
  · rw [if_neg hnegative]
    simp [readExponent?, hne, hdigits, hvalue, abs_of_nonneg (not_lt.1 hnegative)]

/-- A text writes a decimal: it begins with a digit, and what is read of it is the same number. -/
structure Scientific.IsWrittenBy (d : Scientific) (s : List Char) : Prop where
  head : ∃ c rest, s = c :: rest ∧ isDigit c = true
  number : ∃ digits exponent, readNumeral? s = some (digits, exponent) ∧
    Scientific.value ⟨digits, exponent⟩ = d.value

/-- Digits with a point among them, and perhaps an exponent behind. -/
theorem Scientific.isWrittenBy_point {power : Int} (hne : whole ≠ [])
    (hwhole : ∀ c ∈ whole, isDigit c = true) (hfraction : ∀ c ∈ fraction, isDigit c = true)
    (htail : ∀ c ∈ tail.head?, isDigit c = false) (hpower : readExponent? tail = some power)
    (hvalue : Scientific.value ⟨digitsValue (whole ++ fraction), power - (fraction.length : Int)⟩ =
      d.value) : d.IsWrittenBy (whole ++ '.' :: (fraction ++ tail)) := by
  refine ⟨?_, _, _, ?_, hvalue⟩
  · obtain ⟨c, rest, rfl⟩ := List.exists_cons_of_ne_nil hne
    exact ⟨c, _, rfl, hwhole c List.mem_cons_self⟩
  · rw [readNumeral?_point hne hwhole hfraction htail, hpower]
    rfl

/-- Factors of ten may be moved to the digits. -/
theorem Scientific.value_shift (digits n : Nat) (exponent : Int) :
    Scientific.value ⟨digits * 10 ^ n, exponent - n⟩ = Scientific.value ⟨digits, exponent⟩ := by
  have hten : (10 : ℚ) ^ n ≠ 0 := by positivity
  simp only [value]
  rw [zpow_sub₀ (by norm_num), zpow_natCast]
  push_cast
  field_simp

theorem isDigit_of_mem_zeros (n : Nat) : ∀ c ∈ List.replicate n '0', isDigit c = true := by
  intro c hc
  rw [List.eq_of_mem_replicate hc]
  rfl

/-! ### The notations -/

namespace Scientific

variable (digits : Nat) (exponent : Int)

/-- A whole number has zeros behind its digits, and one more behind a point. -/
theorem isWrittenBy_zerosBehind (h : 0 ≤ exponent) :
    IsWrittenBy ⟨digits, exponent⟩
      (natText digits ++ List.replicate exponent.toNat '0' ++ ['.', '0']) := by
  refine isWrittenBy_point (by simp [natText_ne_nil])
    (List.forall_mem_append.2 ⟨fun c hc => isDigit_of_mem_natText hc, isDigit_of_mem_zeros _⟩)
    (isDigit_of_mem_zeros 1) (by simp) rfl ?_
  have hdigits : digitsValue (natText digits ++ List.replicate exponent.toNat '0' ++
      List.replicate 1 '0') = digits * 10 ^ (exponent.toNat + 1) := by
    rw [List.append_assoc, List.replicate_append_replicate, digitsValue_append,
      digitsValue_natText, digitsValue_zeros, List.length_replicate, Nat.add_zero]
  have hplace : (0 : Int) - ((List.replicate 1 '0').length : Int) =
      exponent - (exponent.toNat + 1 : Nat) := by
    rw [List.length_replicate]
    omega
  rw [hdigits, hplace, value_shift]

/-- The point stands behind as many digits as the exponent leaves in front of it. -/
theorem isWrittenBy_pointWithin {k : Nat} (hk : 0 < k)
    (hplace : exponent = (k : Int) - (natText digits).length) (h : exponent < 0) :
    IsWrittenBy ⟨digits, exponent⟩ ((natText digits).take k ++ '.' :: (natText digits).drop k) := by
  rw [← List.append_nil (List.drop _ _)]
  refine isWrittenBy_point ?_ (fun c hc => isDigit_of_mem_natText (List.mem_of_mem_take hc))
    (fun c hc => isDigit_of_mem_natText (List.mem_of_mem_drop hc)) (by simp) rfl ?_
  · simp only [ne_eq, List.take_eq_nil_iff, natText_ne_nil, or_false]
    omega
  · have hlength : (0 : Int) - (((natText digits).drop k).length : Int) = exponent := by
      rw [List.length_drop]
      omega
    rw [List.take_append_drop, digitsValue_natText, hlength]

/-- A small number has zeros in front of its digits, the first one in front of the point. -/
theorem isWrittenBy_zerosBefore {n : Nat}
    (hplace : exponent = -((n : Int) + (natText digits).length)) :
    IsWrittenBy ⟨digits, exponent⟩ ('0' :: '.' :: (List.replicate n '0' ++ natText digits)) := by
  rw [← List.append_nil (List.replicate _ _ ++ _)]
  show IsWrittenBy _ (['0'] ++ '.' :: ((List.replicate n '0' ++ natText digits) ++ []))
  refine isWrittenBy_point (by simp) (isDigit_of_mem_zeros 1)
    (List.forall_mem_append.2 ⟨isDigit_of_mem_zeros n, fun c hc => isDigit_of_mem_natText hc⟩)
    (by simp) rfl ?_
  have hdigits : digitsValue (['0'] ++ (List.replicate n '0' ++ natText digits)) = digits := by
    rw [← List.append_assoc, digitsValue_append, digitsValue_natText, ← List.replicate_one,
      List.replicate_append_replicate, digitsValue_zeros, Nat.zero_mul, Nat.zero_add]
  have hlength : (0 : Int) - ((List.replicate n '0' ++ natText digits).length : Int) =
      exponent := by
    rw [List.length_append, List.length_replicate]
    omega
  rw [hdigits, hlength]

/-- A single digit has its exponent right behind it. -/
theorem isWrittenBy_single {one : Char} (htext : natText digits = [one]) :
    IsWrittenBy ⟨digits, exponent⟩ (one :: 'e' :: exponentText exponent) := by
  have hdigit : ∀ c ∈ [one], isDigit c = true := by
    rw [← htext]
    exact fun c hc => isDigit_of_mem_natText hc
  have hread := readNumeral?_mark (List.cons_ne_nil one []) hdigit (exponentText exponent)
  rw [readExponent?_exponentText, ← htext, digitsValue_natText, htext] at hread
  exact ⟨⟨one, _, rfl, hdigit one List.mem_cons_self⟩, digits, exponent, hread, rfl⟩

/-- Of more digits the first one stands in front of the point. -/
theorem isWrittenBy_pointBehindFirst {first : Char} {rest : List Char} {power : Int}
    (htext : natText digits = first :: rest) (hpower : exponent = power - rest.length) :
    IsWrittenBy ⟨digits, exponent⟩ (first :: '.' :: (rest ++ 'e' :: exponentText power)) := by
  have hdigits : ∀ c ∈ first :: rest, isDigit c = true := by
    rw [← htext]
    exact fun c hc => isDigit_of_mem_natText hc
  obtain ⟨hfirst, hrest⟩ := List.forall_mem_cons.1 hdigits
  show IsWrittenBy _ ([first] ++ '.' :: (rest ++ 'e' :: exponentText power))
  refine isWrittenBy_point (by simp) (List.forall_mem_singleton.2 hfirst) hrest
    (by rintro c hc; cases hc; decide) (readExponent?_exponentText power) ?_
  rw [List.singleton_append, ← htext, digitsValue_natText, hpower]

/-- Whichever notation is taken, the layout of a decimal writes it. -/
theorem isWrittenBy_text (d : Scientific) : d.IsWrittenBy d.text := by
  obtain ⟨digits, exponent⟩ := d
  unfold text
  dsimp only
  split
  · split
    · rename_i hwhole
      exact isWrittenBy_zerosBehind digits exponent hwhole
    · split
      · exact isWrittenBy_pointWithin digits exponent (by omega) (by omega) (by omega)
      · exact isWrittenBy_zerosBefore digits exponent (by omega)
  · split
    · rename_i hnil
      exact absurd hnil (natText_ne_nil digits)
    · rename_i one htext
      have hpower : exponent + ((natText digits).length : Int) - 1 = exponent := by
        rw [htext, List.length_singleton]
        omega
      rw [hpower]
      exact isWrittenBy_single digits exponent htext
    · rename_i first rest _ htext
      refine isWrittenBy_pointBehindFirst digits exponent htext ?_
      rw [htext, List.length_cons]
      omega

end Scientific

end Layout

/-! ## The round trip -/

section RoundTrip

variable {d : Scientific} {v : Float} {c : Char} {s : List Char}

/-- A decimal that is the shortest one of a double is read as the double, whatever its digits. -/
theorem decimalBits_of_value_eq {x : Binary} (hx : x.IsDouble) (h : d.value = x.shortest.value) :
    decimalBits d.digits d.exponent = x.bits := by
  by_cases hne : x.mantissa = 0
  · have hshortest : x.shortest = ⟨0, 0⟩ := if_pos hne
    have hzero : d.digits = 0 := by
      simpa [hshortest, Scientific.value, zpow_ne_zero] using h
    have hexponent : x.exponent = -1074 := by
      refine hx.leading.resolve_right ?_
      omega
    rw [decimalBits, if_pos hzero, Binary.bits, hne, hexponent]
    rfl
  · refine decimalBits_of_covers hx hne ?_
    rw [h]
    exact Binary.covers_shortest hne

theorem toAsciiDigit_of_isNumeralChar (h : isNumeralChar c = true) : toAsciiDigit c = c := by
  rcases Bool.or_eq_true_iff.1 h with hdigit | hother
  · exact toAsciiDigit_of_isDigit hdigit
  · have hfixed : ∀ d ∈ ['.', '+', '-', 'e', 'i', 'n', 'f', 'a'], (toAsciiDigit d == d) = true :=
      List.all_eq_true.1 rfl
    simpa using hfixed c (List.contains_iff_mem.1 hother)

/-- The reader takes no liberty with characters of numerals. -/
theorem plain_of_isNumeralChar (h : ∀ c ∈ s, isNumeralChar c = true) :
    dropUnderscores? false (trimWhiteSpace (s.map toAsciiDigit)) = some s := by
  have hmap : s.map toAsciiDigit = s :=
    (List.map_congr_left fun c hc => toAsciiDigit_of_isNumeralChar (h c hc)).trans (List.map_id s)
  have htrim : trimWhiteSpace s = s := by
    refine trimBy_eq_self fun c hc => ?_
    have hblank := (not_of_isNumeralChar (h c hc)).1
    rw [isBlank, Bool.or_eq_false_iff] at hblank
    exact hblank.1
  have hunderscore : '_' ∉ s := fun hmem => absurd (h _ hmem) (by decide)
  rw [hmap, htrim, dropUnderscores?_eq_some hunderscore]

/-- A finite double is written as the shortest decimal next to it. -/
theorem fullText_of_isFinite (h : v.isFinite = true) :
    fullText v = if signBit v then '-' :: (Binary.ofFloat v).shortest.text
      else (Binary.ofFloat v).shortest.text := by
  have hfinite : v.toModel.unpack.isFinite = true := h
  have hneither : v.isNaN = false ∧ v.isInf = false := by
    show v.toModel.unpack.isNaN = false ∧ v.toModel.unpack.isInf = false
    cases hv : v.toModel.unpack with
    | zero | finite => exact ⟨rfl, rfl⟩
    | notANumber | infinity =>
      rw [hv] at hfinite
      cases hfinite
  rw [fullText, hneither.1, hneither.2]
  rfl

/-- **Every double is read back from its text.** -/
theorem readFloat?_fullText (v : Float) : readFloat? (fullText v) = some v := by
  cases hfinite : v.isFinite with
  | false => exact readFloat?_fullText_of_not_isFinite hfinite
  | true =>
    obtain ⟨⟨c, rest, htext, hc⟩, digits, exponent, hread, hvalue⟩ :=
      (Binary.ofFloat v).shortest.isWrittenBy_text
    have hbits : decimalBits digits exponent = (Binary.ofFloat v).bits :=
      decimalBits_of_value_eq (isDouble_ofFloat hfinite) hvalue
    have hmagnitude : readMagnitude? (signBit v) (Binary.ofFloat v).shortest.text = some v := by
      rw [htext, readMagnitude?_cons _ hc, ← htext, hread]
      show some (floatOfBits (signBit v) (decimalBits digits exponent)) = some v
      rw [hbits, floatOfBits_bits]
    have hplain := plain_of_isNumeralChar (isNumeralChar_of_mem_fullText (v := v))
    have hfull := fullText_of_isFinite hfinite
    cases hsign : signBit v with
    | true =>
      rw [hsign] at hmagnitude hfull
      rw [readFloat?, hplain, Option.bind_some, hfull]
      exact hmagnitude
    | false =>
      rw [hsign, htext] at hmagnitude hfull
      rw [hfull] at hplain ⊢
      exact (readFloat?_of_plain_cons hplain hc).trans hmagnitude

end RoundTrip

end DeskCalculator
