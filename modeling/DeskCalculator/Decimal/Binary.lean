/-!
# Doubles as numbers times powers of two

A finite double is a natural number times a power of two, with a sign.  This file
decodes one and goes the other way: it finds the double next to a given
ratio of natural numbers, ties to even, without any floating-point arithmetic.

* `Binary.ofBits` — the magnitude of a finite double.
* `nearestBits` — the bit pattern of the double nearest to a ratio.
* `ofDecimal` — the double nearest to a decimal number.

`roundedQuotient_le` and `le_roundedQuotient` place the rounded quotient within
half a unit of the quotient.
-/

namespace DeskCalculator

/-! ## Decoding -/

/-- The magnitude of a finite double, `mantissa * 2 ^ exponent`. -/
structure Binary where
  mantissa : Nat
  exponent : Int
  /-- The next smaller double is half as far away as the next larger one. -/
  narrowBelow : Bool
deriving Repr, DecidableEq

/-- The exponent field and the fraction field of a bit pattern. -/
def bitFields (bits : UInt64) : Nat × Nat :=
  (((bits >>> 52) &&& 0x7FF).toNat, (bits &&& 0xFFFFFFFFFFFFF).toNat)

/-- The magnitude that a bit pattern stands for, if its exponent field is not the last one. -/
def Binary.ofBits (bits : UInt64) : Binary :=
  let (field, fraction) := bitFields bits
  if field = 0 then ⟨fraction, -1074, false⟩
  else ⟨Nat.pow 2 52 + fraction, (field : Int) - 1075, fraction == 0 && 1 < field⟩

/-- Whether the sign bit is set. -/
def signBit (v : Float) : Bool := v.toBits >>> 63 == 1

/-- The magnitude of a finite double. -/
def Binary.ofFloat (v : Float) : Binary := Binary.ofBits v.toBits

/-- The natural number that the magnitude is, if it is one. -/
def Binary.toNat? (x : Binary) : Option Nat :=
  if 0 ≤ x.exponent then some (x.mantissa * Nat.pow 2 x.exponent.toNat)
  else
    let unit := Nat.pow 2 (-x.exponent).toNat
    if x.mantissa % unit = 0 then some (x.mantissa / unit) else none

/-! ## Rounding a ratio -/

/-- The integer nearest to a ratio; halfway between two integers, the even one. -/
def roundedQuotient (num den : Nat) : Nat :=
  let quotient := num / den
  let twice := 2 * (num % den)
  if den < twice || (twice = den && quotient % 2 = 1) then quotient + 1 else quotient

theorem roundedQuotient_le {num den : Nat} (h : 0 < den) :
    2 * den * roundedQuotient num den ≤ 2 * num + den := by
  have hdiv := Nat.div_add_mod num den
  have hlt := Nat.mod_lt num h
  unfold roundedQuotient
  simp only [Bool.or_eq_true, Bool.and_eq_true, decide_eq_true_eq]
  split
  · rw [Nat.mul_add, Nat.mul_assoc]
    omega
  · rw [Nat.mul_assoc]
    omega

theorem le_roundedQuotient {num den : Nat} (h : 0 < den) :
    2 * num ≤ 2 * den * roundedQuotient num den + den := by
  have hdiv := Nat.div_add_mod num den
  have hlt := Nat.mod_lt num h
  unfold roundedQuotient
  simp only [Bool.or_eq_true, Bool.and_eq_true, decide_eq_true_eq]
  split
  · rw [Nat.mul_add, Nat.mul_assoc]
    omega
  · rw [Nat.mul_assoc]
    omega

/-- The bit pattern of positive infinity. -/
def infinityBits : Nat := 0x7FF0000000000000

/-- The exponent of the last place of the double nearest to a positive ratio: fifty-two
places below the leading bit of the ratio, but never below the smallest subnormal. -/
def lastPlace (num den : Nat) : Int :=
  let guess : Int := (num.log2 : Int) - (den.log2 : Int)
  let leading :=
    if num * Nat.pow 2 (-guess).toNat < den * Nat.pow 2 guess.toNat then guess - 1
    else guess
  max (leading - 52) (-1074)

/-- The bit pattern of the double nearest to a ratio, ties to even.  The leading bit of the
rounded mantissa carries into the exponent field, which makes the subnormals and a
mantissa that rounds up to a power of two come out right without a case of their own. -/
def nearestBits (num den : Nat) : Nat :=
  if num = 0 then 0
  else
    let place := lastPlace num den
    let mantissa :=
      roundedQuotient (num * Nat.pow 2 (-place).toNat) (den * Nat.pow 2 place.toNat)
    min ((place + 1074).toNat * Nat.pow 2 52 + mantissa) infinityBits

/-- The double with a given sign and magnitude bits. -/
def floatOfBits (negative : Bool) (magnitude : Nat) : Float :=
  Float.ofBits (UInt64.ofNat (if negative then Nat.pow 2 63 + magnitude else magnitude))

/-- Infinity, positive or negative. -/
def infiniteFloat (negative : Bool) : Float := floatOfBits negative infinityBits

/-- The double that is not a number. -/
def nanFloat : Float := floatOfBits false 0x7FF8000000000000

/-- The bit pattern of the double nearest to `digits * 10 ^ exponent`.  Beyond the range of
doubles the answer is known without forming the power. -/
def decimalBits (digits : Nat) (exponent : Int) : Nat :=
  if digits = 0 then 0
  else if 400 < exponent then infinityBits
  else if exponent + (digits.log2 : Int) < -400 then 0
  else nearestBits (digits * Nat.pow 10 exponent.toNat) (Nat.pow 10 (-exponent).toNat)

/-- The double nearest to a decimal number. -/
def ofDecimal (negative : Bool) (digits : Nat) (exponent : Int) : Float :=
  floatOfBits negative (decimalBits digits exponent)

/-- The double nearest to an integer, unless it is too large for one. -/
def floatOfInt? (n : Int) : Option Float :=
  let bits := nearestBits n.natAbs 1
  if bits = infinityBits then none else some (floatOfBits (n < 0) bits)

end DeskCalculator
