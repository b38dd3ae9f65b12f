import DeskCalculator.Decimal.Binary

/-!
# The shortest decimal that reads back

The reals that round to a double form an interval.  `Binary.shortest` is the decimal
number in it with the fewest digits, and of those the one nearest to the double; halfway
between two, the one with an even last digit.  The search goes through the decimal grids
from coarse to fine and tries the double's two neighbours on each, in exact arithmetic.

`Binary.readsBack_of_onGrid` says that what a grid yields lies in the interval.
-/

namespace DeskCalculator

/-! ## Decimal numbers and the interval -/

/-- The decimal number `digits * 10 ^ exponent`. -/
structure Scientific where
  digits : Nat
  exponent : Int
deriving Repr, DecidableEq

/-- Compare `a * 10 ^ i` with `b * 2 ^ j`. -/
def compareScaled (a : Nat) (i : Int) (b : Nat) (j : Int) : Ordering :=
  compare (a * Nat.pow 10 i.toNat * Nat.pow 2 (-j).toNat)
    (b * Nat.pow 2 j.toNat * Nat.pow 10 (-i).toNat)

namespace Binary

/-- Whether a decimal number lies among the reals that round to the double: strictly
between the midpoints to its neighbours, or on one of them if the mantissa is even. -/
def readsBack (x : Binary) (d : Scientific) : Bool :=
  let lower := if x.narrowBelow then 4 * x.mantissa - 1 else 4 * x.mantissa - 2
  let upper := 4 * x.mantissa + 2
  let even := x.mantissa % 2 == 0
  let fromLower := compareScaled d.digits d.exponent lower (x.exponent - 2)
  let fromUpper := compareScaled d.digits d.exponent upper (x.exponent - 2)
  (fromLower == .gt || (even && fromLower == .eq))
    && (fromUpper == .lt || (even && fromUpper == .eq))

/-! ## Searching a grid -/

/-- The largest multiple of `10 ^ exponent` that is not above the double. -/
def floorOnGrid (x : Binary) (exponent : Int) : Nat :=
  (x.mantissa * Nat.pow 2 x.exponent.toNat * Nat.pow 10 (-exponent).toNat)
    / (Nat.pow 10 exponent.toNat * Nat.pow 2 (-x.exponent).toNat)

/-- The number of decimal places of the double before the point: the least `k` with the
double below `10 ^ k`.  The binary logarithm gives it up to three, from below. -/
def scale (x : Binary) : Int :=
  let start := Int.fdiv (((x.mantissa.log2 : Int) + x.exponent) * 1233) 4096
  let above (k : Int) : Bool := compareScaled 1 k x.mantissa x.exponent == .gt
  match (List.range 4).find? fun (i : Nat) => above (start + i) with
  | some i => start + i
  | none => start + 4

/-- The better of the double's two neighbours on a grid, if one of them reads back. -/
def onGrid (x : Binary) (exponent : Int) : Option Scientific :=
  let below := floorOnGrid x exponent
  match x.readsBack ⟨below, exponent⟩, x.readsBack ⟨below + 1, exponent⟩ with
  | false, false => none
  | true, false => some ⟨below, exponent⟩
  | false, true => some ⟨below + 1, exponent⟩
  | true, true =>
    match compareScaled (2 * below + 1) exponent (2 * x.mantissa) x.exponent with
    | .lt => some ⟨below + 1, exponent⟩
    | .gt => some ⟨below, exponent⟩
    | .eq => some ⟨if below % 2 = 0 then below else below + 1, exponent⟩

theorem readsBack_of_onGrid {x : Binary} {exponent : Int} {d : Scientific}
    (h : x.onGrid exponent = some d) : x.readsBack d = true := by
  unfold onGrid at h
  simp only at h
  split at h
  · simp at h
  · simp_all
  · simp_all
  · split at h
    · simp_all
    · simp_all
    · split at h <;> simp_all

/-- The exact decimal value of a double. -/
def exactDecimal (x : Binary) : Scientific :=
  if 0 ≤ x.exponent then ⟨x.mantissa * Nat.pow 2 x.exponent.toNat, 0⟩
  else ⟨x.mantissa * Nat.pow 5 (-x.exponent).toNat, x.exponent⟩

end Binary

/-! ## The result -/

/-- Move the factors of ten from the digits to the exponent, at most `fuel` of them. -/
def Scientific.normalize : Nat → Scientific → Scientific
  | 0, d => d
  | fuel + 1, d =>
    if d.digits ≠ 0 && d.digits % 10 = 0 then
      Scientific.normalize fuel ⟨d.digits / 10, d.exponent + 1⟩
    else d

/-- The shortest decimal that reads back as the double.  Seventeen digits always do. -/
def Binary.shortest (x : Binary) : Scientific :=
  if x.mantissa = 0 then ⟨0, 0⟩
  else
    let places := x.scale
    match (List.range 17).findSome? fun (n : Nat) => x.onGrid (places - 1 - n) with
    | some d => d.normalize 17
    | none => x.exactDecimal

end DeskCalculator
