import DeskCalculator.Decimal.Shortest
import DeskCalculator.Text.DecimalDigit

/-!
# The text of a double

Two ways to write a double.

* `fullText` — the fewest digits that read back, always with a point or an exponent.
  The point notation is used while the leading digit stands for `10 ^ e` with
  `-4 ≤ e < 16`; beyond, the exponent has a sign and at least two digits.
* `displayText` — what a person is shown: a whole number as an integer, in full and
  without a sign for zero, and anything else as `fullText`.
-/

namespace DeskCalculator

/-! ## Layout -/

/-- The exponents of the leading digit that are written with a point and no exponent. -/
def inPointNotation (e : Int) : Bool := -4 ≤ e && e < 16

/-- The exponent after its mark: a sign and at least two digits. -/
def exponentText (e : Int) : List Char :=
  let digits := natText e.natAbs
  let padded := if digits.length < 2 then '0' :: digits else digits
  (if e < 0 then '-' else '+') :: padded

/-- Lay out a decimal number: its digits with the point after, inside or before them, or
with an exponent. -/
def Scientific.text (d : Scientific) : List Char :=
  let digits := natText d.digits
  let leading : Int := d.exponent + (digits.length : Int) - 1
  if inPointNotation leading then
    if 0 ≤ d.exponent then
      digits ++ List.replicate d.exponent.toNat '0' ++ ['.', '0']
    else if 0 ≤ leading then
      digits.take (leading + 1).toNat ++ '.' :: digits.drop (leading + 1).toNat
    else
      '0' :: '.' :: (List.replicate (-leading - 1).toNat '0' ++ digits)
  else
    match digits with
    | [] => []
    | [one] => one :: 'e' :: exponentText leading
    | first :: rest => first :: '.' :: (rest ++ 'e' :: exponentText leading)

/-! ## Doubles -/

/-- The fewest digits that read back as the double. -/
def fullText (v : Float) : List Char :=
  if v.isNaN then ['n', 'a', 'n']
  else
    let magnitude := if v.isInf then ['i', 'n', 'f'] else (Binary.ofFloat v).shortest.text
    if signBit v then '-' :: magnitude else magnitude

/-- The integer that a double is, if it is one. -/
def wholeNumber? (v : Float) : Option Int :=
  if v.isFinite then
    (Binary.ofFloat v).toNat?.map fun n => if signBit v then -(n : Int) else (n : Int)
  else none

/-- The text of a result as a person sees it. -/
def displayText (v : Float) : List Char :=
  match wholeNumber? v with
  | some n => intText n
  | none => fullText v

end DeskCalculator
