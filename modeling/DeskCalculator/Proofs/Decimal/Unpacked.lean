import DeskCalculator.Proofs.Decimal.FullText
import Mathlib

/-!
# Equality and order of doubles

Doubles are compared by their unpacked forms, and written by their bits.  Both ways to take a double
apart find the same sign, mantissa and exponent, so what a comparison says about a double is said
about the magnitude that is written.

* `beq_iff` — two doubles are equal if they are the same one or both are zeros.
* `unsignZero` — a double without the sign of a zero: what equal doubles have in common.
* `ofFloat_of_unpack` — the unpacked form has the sign and the magnitude of the bits.
* `unpack_of_zero_le`, `unpack_of_finite_le` — what a lower bound says about a double.
-/

namespace DeskCalculator

open Float.Model (Format UnpackedFloat)

variable {v w : Float}

/-! ## Equality -/

/-- Unpacked forms that compare as equal are the same, but for the signs of zeros. -/
theorem compare_eq_iff {a b : UnpackedFloat} : a.compare b = some .eq ↔
    a.isNaN = false ∧ (a = b ∨ ∃ s s', a = .zero s ∧ b = .zero s') := by
  cases a with
  | notANumber => simp [UnpackedFloat.compare, UnpackedFloat.isNaN]
  | infinity s =>
    cases b with
    | infinity s' =>
      cases s <;> cases s' <;> simp [UnpackedFloat.compare, UnpackedFloat.isNaN, compare]
    | notANumber | zero | finite => cases s <;> simp [UnpackedFloat.compare, UnpackedFloat.isNaN]
  | zero s =>
    cases b with
    | infinity s' | finite s' =>
      cases s' <;> simp [UnpackedFloat.compare, UnpackedFloat.isNaN]
    | notANumber | zero => simp [UnpackedFloat.compare, UnpackedFloat.isNaN]
  | finite s =>
    cases b with
    | finite s' =>
      cases s <;> cases s' <;>
        simp [UnpackedFloat.compare, UnpackedFloat.isNaN, Ordering.then_eq_eq, and_comm]
    | infinity s' => cases s <;> cases s' <;> simp [UnpackedFloat.compare, UnpackedFloat.isNaN]
    | notANumber | zero => cases s <;> simp [UnpackedFloat.compare, UnpackedFloat.isNaN]

theorem beq_iff_compare : (v == w) = true ↔
    v.toModel.unpack.compare w.toModel.unpack = some .eq :=
  beq_iff_eq (a := v.toModel.unpack.compare w.toModel.unpack)

/-- What equals zero is a zero, of either sign. -/
theorem eq_zero_iff : (v == 0) = true ↔ ∃ s, v.toModel.unpack = .zero s := by
  have hzero : (0 : Float).toModel.unpack = .zero .positive := rfl
  rw [beq_iff_compare, hzero, compare_eq_iff]
  constructor
  · rintro ⟨-, hv | ⟨s, s', hv, -⟩⟩
    · exact ⟨.positive, hv⟩
    · exact ⟨s, hv⟩
  · rintro ⟨s, hv⟩
    rw [hv]
    exact ⟨rfl, .inr ⟨s, .positive, rfl, rfl⟩⟩

/-- Two doubles are equal if they are the same one or both are zeros. -/
theorem beq_iff (hv : v.isNaN = false) :
    (v == w) = true ↔ v = w ∨ (v == 0) = true ∧ (w == 0) = true := by
  have hnan : v.toModel.unpack.isNaN = false := hv
  have hsame : v = w ↔ v.toModel.unpack = w.toModel.unpack := ⟨fun h => h ▸ rfl, eq_of_unpack⟩
  rw [beq_iff_compare, compare_eq_iff, hsame, eq_zero_iff, eq_zero_iff]
  simp only [hnan, true_and, exists_and_left, exists_and_right]

/-- A zero has a sign and no bits. -/
theorem eq_floatOfBits_of_eq_zero (h : (v == 0) = true) :
    ∃ negative, v = floatOfBits negative 0 := by
  obtain ⟨s, hv⟩ := eq_zero_iff.1 h
  cases s with
  | positive => exact ⟨false, eq_of_unpack hv⟩
  | negative => exact ⟨true, eq_of_unpack hv⟩

/-- A double that is no zero has a mantissa. -/
theorem mantissa_ne_zero (hfinite : v.isFinite = true) (h : ¬ (v == 0) = true) :
    (Binary.ofFloat v).mantissa ≠ 0 := by
  intro hzero
  have hexponent : (Binary.ofFloat v).exponent = -1074 := by
    refine (isDouble_ofFloat hfinite).leading.resolve_right ?_
    omega
  have hbits : (Binary.ofFloat v).bits = 0 := by
    rw [Binary.bits, hzero, hexponent]
    rfl
  have hv := floatOfBits_bits v
  rw [hbits] at hv
  refine h ?_
  rw [← hv]
  cases signBit v <;> rfl

/-- The double without the sign of a zero. -/
def unsignZero (v : Float) : Float := if v == 0 then 0 else v

theorem unsignZero_of_zero (h : (v == 0) = true) : unsignZero v = 0 := if_pos h

theorem unsignZero_of_not_zero (h : ¬ (v == 0) = true) : unsignZero v = v := if_neg h

theorem unsignZero_unsignZero (v : Float) : unsignZero (unsignZero v) = unsignZero v := by
  by_cases h : (v == 0) = true
  · rw [unsignZero_of_zero h]
    rfl
  · rw [unsignZero_of_not_zero h, unsignZero_of_not_zero h]

/-- Doubles are equal if they are the same but for the signs of zeros. -/
theorem beq_iff_unsignZero (hv : v.isNaN = false) :
    (v == w) = true ↔ unsignZero v = unsignZero w := by
  rw [beq_iff hv]
  by_cases hv0 : (v == 0) = true <;> by_cases hw0 : (w == 0) = true
  · simp only [hv0, hw0, and_self, or_true, unsignZero_of_zero]
  · rw [unsignZero_of_zero hv0, unsignZero_of_not_zero hw0]
    refine iff_of_false ?_ ?_
    · rintro (rfl | ⟨-, hw⟩)
      · exact hw0 hv0
      · exact hw0 hw
    · rintro rfl
      exact hw0 rfl
  · rw [unsignZero_of_not_zero hv0, unsignZero_of_zero hw0]
    refine iff_of_false ?_ ?_
    · rintro (rfl | ⟨hv, -⟩)
      · exact hv0 hw0
      · exact hv0 hv
    · rintro rfl
      exact hv0 rfl
  · rw [unsignZero_of_not_zero hv0, unsignZero_of_not_zero hw0]
    exact or_iff_left fun hzeros => hv0 hzeros.1

/-- What a double is without the sign of a zero equals it. -/
theorem unsignZero_beq (hv : v.isNaN = false) : (unsignZero v == v) = true := by
  have hnan : (unsignZero v).isNaN = false := by
    unfold unsignZero
    split
    · rfl
    · exact hv
  rw [beq_iff_unsignZero hnan, unsignZero_unsignZero]

/-! ## The parts of a double -/

section Parts

variable (v)

theorem unpackExponent_toBits :
    (@UnpackedFloat.unpackExponent Format.binary64 v.toBits.toBitVec).toNat =
      v.toBits.toNat / 2 ^ 52 % 2 ^ 11 := by
  rw [UnpackedFloat.unpackExponent_def, BitVec.extractLsb'_toNat, Nat.shiftRight_eq_div_pow]
  rfl

theorem unpackMantissa_toBits :
    (@UnpackedFloat.unpackMantissa Format.binary64 v.toBits.toBitVec).toNat =
      v.toBits.toNat % 2 ^ 52 := by
  rw [UnpackedFloat.unpackMantissa_def, BitVec.extractLsb'_toNat, Nat.shiftRight_zero]
  rfl

theorem unpackSign_toBits :
    UnpackedFloat.Sign.ofBitVec (@UnpackedFloat.unpackSign Format.binary64 v.toBits.toBitVec) =
      if signBit v then .negative else .positive := by
  have hlt := v.toBits.toNat_lt
  have hzero : @UnpackedFloat.unpackSign Format.binary64 v.toBits.toBitVec = 0#1 ↔
      ¬ signBit v = true := by
    rw [← BitVec.toNat_inj, UnpackedFloat.unpackSign_def, BitVec.extractLsb'_toNat,
      Nat.shiftRight_eq_div_pow, signBit_iff]
    show v.toBits.toNat / 2 ^ 63 % 2 ^ 1 = 0 ↔ _
    omega
  rw [UnpackedFloat.Sign.ofBitVec, if_congr hzero rfl rfl, ite_not]

end Parts

section Magnitude

variable {s : UnpackedFloat.Sign} {m : Nat} {e : Int} {hm : 0 < m}

/-- The unpacked form of a double has the sign and the magnitude of its bits. -/
theorem ofFloat_of_unpack (h : v.toModel.unpack = .finite s m e hm) :
    (if signBit v then .negative else .positive) = s ∧ (Binary.ofFloat v).mantissa = m ∧
      (Binary.ofFloat v).exponent = e := by
  change UnpackedFloat.unpack Format.binary64 v.toBits.toBitVec = _ at h
  unfold UnpackedFloat.unpack at h
  unfold Binary.ofFloat Binary.ofBits
  rw [bitFields_eq, ← unpackExponent_toBits, ← unpackMantissa_toBits]
  simp only [unpackSign_toBits] at h ⊢
  split at h
  next => split at h <;> cases h
  next =>
    split at h
    next hsubnormal =>
      split at h
      next => cases h
      next =>
        injection h with hsign hmantissa hexponent
        rw [hsubnormal] at hexponent ⊢
        exact ⟨hsign, hmantissa, hexponent⟩
    next hnormal =>
      injection h with hsign hmantissa hexponent
      have hfield : (@UnpackedFloat.unpackExponent Format.binary64 v.toBits.toBitVec).toNat ≠ 0 :=
        fun hzero => hnormal (BitVec.eq_of_toNat_eq hzero)
      rw [if_neg hfield]
      refine ⟨hsign, ?_, ?_⟩
      · rw [← hmantissa, BitVec.toNat_append, ← Nat.shiftLeft_add_eq_or_of_lt (BitVec.isLt _)]
        rfl
      · have hbias : (Format.binary64.exponentBias : Int) = 1023 := rfl
        rw [← hexponent]
        show _ - 1075 = _ - ((Format.binary64.exponentBias : Int) + 52)
        rw [hbias]
        rfl

theorem signBit_of_positive (h : v.toModel.unpack = .finite .positive m e hm) :
    signBit v = false := by
  have hsign := (ofFloat_of_unpack h).1
  cases hbit : signBit v with
  | false => rfl
  | true =>
    rw [hbit] at hsign
    cases hsign

end Magnitude

/-! ## Order -/

/-- A finite double is a number. -/
theorem isNaN_of_isFinite (h : v.isFinite = true) : v.isNaN = false := by
  have hfinite : v.toModel.unpack.isFinite = true := h
  show v.toModel.unpack.isNaN = false
  cases hv : v.toModel.unpack with
  | notANumber =>
    rw [hv] at hfinite
    cases hfinite
  | infinity | zero | finite => rfl

section Order

theorem le_iff_unpack : w ≤ v ↔ w.toModel.unpack.le v.toModel.unpack = true :=
  decide_eq_true_iff (p := w.toModel ≤ v.toModel)

/-- A finite double that is not below a positive one is positive itself, with a larger exponent or
with the same one and no smaller mantissa. -/
theorem unpack_of_finite_le {m : Nat} {e : Int} {hm : 0 < m}
    (hw : w.toModel.unpack = .finite .positive m e hm) (hfinite : v.isFinite = true) (h : w ≤ v) :
    ∃ m' e' hm', v.toModel.unpack = .finite .positive m' e' hm' ∧ (e < e' ∨ e = e' ∧ m ≤ m') := by
  have hle := le_iff_unpack.1 h
  have hfinite' : v.toModel.unpack.isFinite = true := hfinite
  rw [hw] at hle
  cases hv : v.toModel.unpack with
  | notANumber | infinity =>
    rw [hv] at hfinite'
    cases hfinite'
  | zero =>
    rw [hv] at hle
    cases hle
  | finite s m' e' hm' =>
    rw [hv] at hle
    cases s with
    | negative => cases hle
    | positive =>
      have hcompare : ((compare e e').then (compare m m')).isLE = true := hle
      rw [Ordering.isLE_then_iff_or, compare_lt_iff_lt, compare_eq_iff_eq,
        Nat.isLE_compare] at hcompare
      exact ⟨m', e', hm', rfl, hcompare⟩

/-- A finite double that is not below zero is a zero or positive. -/
theorem unpack_of_zero_le (hfinite : v.isFinite = true) (h : 0 ≤ v) :
    (v == 0) = true ∨ ∃ m e hm, v.toModel.unpack = .finite .positive m e hm := by
  have hzero : (0 : Float).toModel.unpack = .zero .positive := rfl
  have hle := le_iff_unpack.1 h
  have hfinite' : v.toModel.unpack.isFinite = true := hfinite
  rw [hzero] at hle
  rw [eq_zero_iff]
  cases hv : v.toModel.unpack with
  | notANumber | infinity =>
    rw [hv] at hfinite'
    cases hfinite'
  | zero s => exact .inl ⟨s, rfl⟩
  | finite s m e hm =>
    rw [hv] at hle
    cases s with
    | negative => cases hle
    | positive => exact .inr ⟨m, e, hm, rfl⟩

end Order

end DeskCalculator
