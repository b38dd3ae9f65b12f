import DeskCalculator.Decimal.Notation
import DeskCalculator.Json.Value
import DeskCalculator.Text.Quoted

/-!
# Writing JSON

Values are written on one line in printable ASCII: a comma and a space between neighbours, a
colon and a space after a key, and every other character of a string as an escape.
-/

namespace DeskCalculator.Json

/-! ## Strings -/

/-- The units of sixteen bits of a character. -/
def units (c : Char) : List Nat :=
  if c.toNat < 0x10000 then [c.toNat]
  else
    let n := c.toNat - 0x10000
    [0xD800 + n / 0x400, 0xDC00 + n % 0x400]

/-- A unit as an escape. -/
def unitEscape (unit : Nat) : List Char := '\\' :: 'u' :: hexText 4 unit

/-- One character of a string. -/
def printChar (c : Char) : List Char :=
  if c = '"' then ['\\', '"']
  else if c = '\\' then ['\\', '\\']
  else if c = '\n' then ['\\', 'n']
  else if c = '\r' then ['\\', 'r']
  else if c = '\t' then ['\\', 't']
  else if c = '\x0c' then ['\\', 'f']
  else if c = '\x08' then ['\\', 'b']
  else if 0x20 ≤ c.toNat && c.toNat < 0x7F then [c]
  else (units c).flatMap unitEscape

/-- A string between quotes. -/
def printString (s : List Char) : List Char := '"' :: (s.flatMap printChar ++ ['"'])

/-- A string with surrogates between quotes. -/
def printSurrogates (s : CodePoints) : List Char :=
  let shown := s.flatMap fun n =>
    if isSurrogate n then unitEscape n else printChar (Char.ofNat n)
  '"' :: (shown ++ ['"'])

/-- A number with a fraction or an exponent. -/
def printFloat (v : Float) : List Char :=
  if v.isNaN then "NaN".toList
  else if v.isInf then (if signBit v then "-Infinity".toList else "Infinity".toList)
  else fullText v

/-! ## Values -/

mutual

/-- The text of a value. -/
def print : Json → List Char
  | .null => "null".toList
  | .bool true => "true".toList
  | .bool false => "false".toList
  | .int n => intText n
  | .float v => printFloat v
  | .string s => printString s
  | .surrogates s => printSurrogates s
  | .array items => '[' :: printItems items
  | .object members => '\x7b' :: printMembers members

/-- The elements of an array and the bracket after them. -/
def printItems : List Json → List Char
  | [] => [']']
  | [item] => print item ++ [']']
  | item :: rest => print item ++ ',' :: ' ' :: printItems rest

/-- The members of an object and the brace after them. -/
def printMembers : List (List Char × Json) → List Char
  | [] => ['\x7d']
  | [(key, value)] => printString key ++ ':' :: ' ' :: (print value ++ ['\x7d'])
  | (key, value) :: rest =>
    printString key ++ ':' :: ' ' :: (print value ++ ',' :: ' ' :: printMembers rest)

end

end DeskCalculator.Json
