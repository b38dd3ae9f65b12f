import DeskCalculator.Decimal.Binary
import DeskCalculator.Text.Blank
import DeskCalculator.Text.DecimalDigit

/-!
# Reading a double

Two readers of numerals.

* `literalValue` — the value of a numeral that is known to be digits, with or without
  a fraction.
* `readFloat?` — the general reader: white space around the number, a sign, digits of
  any script with single underscores between them, a point on either side of the
  digits, an exponent, and the words for infinity and for what is not a number.

Every numeral is rounded once, to the nearest double.
-/

namespace DeskCalculator

/-! ## Numerals without a sign -/

/-- The value of digits with a fraction after the point. -/
def literalValue (s : List Char) : Float :=
  let whole := s.takeWhile isDigit
  let fraction := (s.dropWhile isDigit).drop 1
  ofDecimal false (digitsValue (whole ++ fraction)) (-(fraction.length : Int))

/-- Split a text after its leading digits. -/
def spanDigits (s : List Char) : List Char × List Char :=
  (s.takeWhile isDigit, s.dropWhile isDigit)

/-- The exponent part: nothing, or a mark, an optional sign and digits to the end. -/
def readExponent? : List Char → Option Int
  | [] => some 0
  | mark :: rest =>
    if mark = 'e' || mark = 'E' then
      let (negative, digits) : Bool × List Char := match rest with
        | '-' :: digits => (true, digits)
        | '+' :: digits => (false, digits)
        | digits => (false, digits)
      if digits.isEmpty || !digits.all isDigit then none
      else
        let n : Int := digitsValue digits
        some (if negative then -n else n)
    else none

/-- A numeral without a sign, as its digits and the power of ten that scales them. -/
def readNumeral? (s : List Char) : Option (Nat × Int) :=
  let (whole, rest) := spanDigits s
  let (fraction, rest) : List Char × List Char := match rest with
    | '.' :: rest => spanDigits rest
    | rest => ([], rest)
  if whole.isEmpty && fraction.isEmpty then none
  else
    (readExponent? rest).map fun e =>
      (digitsValue (whole ++ fraction), e - (fraction.length : Int))

/-! ## The general reader -/

/-- Drop the underscores of a numeral, each of which must stand between two digits.
`before` says whether the character to the left is a digit. -/
def dropUnderscores? (before : Bool) : List Char → Option (List Char)
  | [] => some []
  | '_' :: rest =>
    match rest with
    | next :: _ =>
      if before && isDigit next then dropUnderscores? false rest else none
    | [] => none
  | c :: rest => (dropUnderscores? (isDigit c) rest).map (c :: ·)

/-- A double without its sign. -/
def readMagnitude? (negative : Bool) (s : List Char) : Option Float :=
  let word := String.ofList (s.map Char.toLower)
  if word = "inf" || word = "infinity" then some (infiniteFloat negative)
  else if word = "nan" then some nanFloat
  else (readNumeral? s).map fun (digits, exponent) => ofDecimal negative digits exponent

/-- Read a double; `none` if the text does not write one. -/
def readFloat? (s : List Char) : Option Float :=
  (dropUnderscores? false (trimWhiteSpace (s.map toAsciiDigit))).bind fun plain =>
    match plain with
    | '-' :: magnitude => readMagnitude? true magnitude
    | '+' :: magnitude => readMagnitude? false magnitude
    | magnitude => readMagnitude? false magnitude

end DeskCalculator
