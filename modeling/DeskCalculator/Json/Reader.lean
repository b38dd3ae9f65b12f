import DeskCalculator.Decimal.Reader
import DeskCalculator.Json.Value

/-!
# Reading JSON

A strict reader with two liberties: the words for infinity and for what is not a number are
numbers, and a key may occur more than once, where the last value counts.

* `Json.parse` — the value of a whole text.
* `JsonFailure` — a text is malformed, or has a whole number of more than
  `maxIntegerDigits` digits.
-/

namespace DeskCalculator

/-- Why a text is not read. -/
inductive JsonFailure where
  | malformed
  | integerTooLong (digits : Nat)
deriving Repr, DecidableEq

/-- The most digits that a whole number may have. -/
def maxIntegerDigits : Nat := 4300

/-- The words for a whole number of too many digits. -/
def tooManyDigitsMessage (digits : Nat) : List Char :=
  "Exceeds the limit (".toList ++ natText maxIntegerDigits
    ++ " digits) for integer string conversion: value has ".toList ++ natText digits
    ++ " digits; use sys.set_int_max_str_digits() to increase the limit".toList

namespace Json

/-! ## Blanks -/

/-- White space between the parts of a JSON text. -/
def isSpace (c : Char) : Bool := c == ' ' || c == '\t' || c == '\n' || c == '\r'

/-- Drop white space. -/
def skipSpace (s : List Char) : List Char := s.dropWhile isSpace

/-! ## Strings -/

/-- The value of a hexadecimal digit. -/
def hexValue? (c : Char) : Option Nat :=
  if isDigit c then some (c.toNat - 48)
  else if 'a' ≤ c && c ≤ 'f' then some (c.toNat - 87)
  else if 'A' ≤ c && c ≤ 'F' then some (c.toNat - 55)
  else none

/-- The number that four hexadecimal digits write. -/
def hexUnit? (a b c d : Char) : Option Nat := do
  let high := (← hexValue? a) * 16 + (← hexValue? b)
  let low := (← hexValue? c) * 16 + (← hexValue? d)
  return high * 256 + low

/-- Take in a unit of sixteen bits: the second half of a pair joins the first one. -/
def takeUnit (found : CodePoints) (unit : Nat) : CodePoints :=
  match found with
  | high :: rest =>
    if isHighSurrogate high && isLowSurrogate unit then pairedPoint high unit :: rest
    else unit :: found
  | [] => [unit]

/-- What a letter after a backslash stands for. -/
def escaped? : Char → Option Char
  | '"' => some '"'
  | '\\' => some '\\'
  | '/' => some '/'
  | 'b' => some '\x08'
  | 'f' => some '\x0c'
  | 'n' => some '\n'
  | 'r' => some '\r'
  | 't' => some '\t'
  | _ => none

/-- The rest of a string after its opening quote, and what follows the closing one. -/
def readString (found : CodePoints) : List Char → Except JsonFailure (CodePoints × List Char)
  | '"' :: rest => .ok (found.reverse, rest)
  | '\\' :: 'u' :: a :: b :: c :: d :: rest =>
    match hexUnit? a b c d with
    | some unit => readString (takeUnit found unit) rest
    | none => .error .malformed
  | '\\' :: c :: rest =>
    match escaped? c with
    | some e => readString (e.toNat :: found) rest
    | none => .error .malformed
  | c :: rest =>
    if c.toNat < 0x20 || c = '\\' then .error .malformed
    else readString (c.toNat :: found) rest
  | [] => .error .malformed

/-- The value of a string that was read. -/
def ofCodePoints (s : CodePoints) : Json := (s.chars?.map Json.string).getD (.surrogates s)

/-! ## Numbers -/

/-- The digits of the whole part of a number: a single zero, or digits that do not begin with
one. -/
def readWhole? (s : List Char) : Option (List Char × List Char) :=
  match s with
  | '0' :: rest => some (['0'], rest)
  | _ => if (s.takeWhile isDigit).isEmpty then none else some (spanDigits s)

/-- The fraction of a number, if there is one: at least one digit after a point. -/
def readFraction (s : List Char) : Option (List Char) × List Char :=
  match s with
  | '.' :: rest =>
    let (digits, after) := spanDigits rest
    if digits.isEmpty then (none, s) else (some digits, after)
  | _ => (none, s)

/-- The exponent of a number, if there is one: at least one digit after a mark and a sign. -/
def readPower (s : List Char) : Option Int × List Char :=
  match s with
  | mark :: rest =>
    if mark = 'e' || mark = 'E' then
      let (negative, rest) : Bool × List Char := match rest with
        | '-' :: rest => (true, rest)
        | '+' :: rest => (false, rest)
        | rest => (false, rest)
      let (digits, after) := spanDigits rest
      if digits.isEmpty then (none, s)
      else
        let n : Int := digitsValue digits
        (some (if negative then -n else n), after)
    else (none, s)
  | [] => (none, s)

/-- A number without its sign, and what follows it. -/
def readNumber (negative : Bool) (s : List Char) : Except JsonFailure (Json × List Char) :=
  match readWhole? s with
  | none => .error .malformed
  | some (whole, rest) =>
    let (fraction?, rest) := readFraction rest
    let (power?, rest) := readPower rest
    match fraction?, power? with
    | none, none =>
      if maxIntegerDigits < whole.length then .error (.integerTooLong whole.length)
      else
        let n : Int := digitsValue whole
        .ok (.int (if negative then -n else n), rest)
    | _, _ =>
      let fraction := fraction?.getD []
      .ok (.float (ofDecimal negative (digitsValue (whole ++ fraction))
        (power?.getD 0 - (fraction.length : Int))), rest)

/-! ## Values -/

/-- The text after a given beginning. -/
def after? (word : String) (s : List Char) : Option (List Char) :=
  if word.toList.isPrefixOf s then some (s.drop word.length) else none

/-- A value that is one word or a number, and what follows it. -/
def readAtom (s : List Char) : Except JsonFailure (Json × List Char) :=
  if let some rest := after? "null" s then .ok (.null, rest)
  else if let some rest := after? "true" s then .ok (.bool true, rest)
  else if let some rest := after? "false" s then .ok (.bool false, rest)
  else if let some rest := after? "NaN" s then .ok (.float nanFloat, rest)
  else if let some rest := after? "Infinity" s then .ok (.float (infiniteFloat false), rest)
  else if let some rest := after? "-Infinity" s then .ok (.float (infiniteFloat true), rest)
  else match s with
    | '-' :: rest => readNumber true rest
    | _ => readNumber false s

mutual

/-- A value at the front of a text, and what follows it.  The first argument bounds the depth
of the recursion. -/
def readValue : Nat → List Char → Except JsonFailure (Json × List Char)
  | 0, _ => .error .malformed
  | fuel + 1, s =>
    match s with
    | '"' :: rest => do
      let (text, rest) ← readString [] rest
      .ok (ofCodePoints text, rest)
    | '[' :: rest =>
      match skipSpace rest with
      | ']' :: rest => .ok (.array [], rest)
      | rest => readElements fuel [] rest
    | '{' :: rest =>
      match skipSpace rest with
      | '}' :: rest => .ok (.object [], rest)
      | rest => readMembers fuel [] rest
    | _ => readAtom s

/-- The elements of an array from the next one on. -/
def readElements : Nat → List Json → List Char → Except JsonFailure (Json × List Char)
  | 0, _, _ => .error .malformed
  | fuel + 1, found, s => do
    let (item, rest) ← readValue fuel s
    match skipSpace rest with
    | ',' :: rest => readElements fuel (item :: found) (skipSpace rest)
    | ']' :: rest => .ok (.array (item :: found).reverse, rest)
    | _ => .error .malformed

/-- The members of an object from the next one on. -/
def readMembers : Nat → List (List Char × Json) → List Char →
    Except JsonFailure (Json × List Char)
  | 0, _, _ => .error .malformed
  | fuel + 1, found, s =>
    match s with
    | '"' :: rest => do
      let (key, rest) ← readString [] rest
      match skipSpace rest with
      | ':' :: rest =>
        let (value, rest) ← readValue fuel (skipSpace rest)
        match skipSpace rest with
        | ',' :: rest => readMembers fuel ((key.joined, value) :: found) (skipSpace rest)
        | '}' :: rest => .ok (.object (mergeMembers ((key.joined, value) :: found).reverse), rest)
        | _ => .error .malformed
      | _ => .error .malformed
    | _ => .error .malformed

end

/-- The value of a whole text.  Every second step of the recursion takes a character at
least, so twice the length bounds it. -/
def parse (s : List Char) : Except JsonFailure Json := do
  let (value, rest) ← readValue (2 * s.length + 2) (skipSpace s)
  if (skipSpace rest).isEmpty then .ok value else .error .malformed

end Json

end DeskCalculator
