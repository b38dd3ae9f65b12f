import DeskCalculator.Json.Reader
import DeskCalculator.Text.CodePoint
import DeskCalculator.Text.Pieces

/-!
# Kinds of nodes

What a node is: nothing at all, a truth value, a number, a date, a text, or one of the
collections.  A node's tag says it; without one, the form of a plain scalar does.

* `Kind.ofTag` — the kind that a tag says.
* `Kind.ofText` — the kind of a plain scalar.
* `isInt`, `isFloat`, `dateText?` — the forms of numbers and dates.
-/

namespace DeskCalculator.Yaml

/-- What a node is. -/
inductive Kind where
  | null
  | bool
  | int
  | float
  | date
  | text
  | bytes
  | sequence
  | mapping
  /-- A mapping without values. -/
  | set
  /-- A sequence of mappings of one entry each. -/
  | pairs
  /-- The key that merges other mappings into one. -/
  | mergeKey
  /-- The key that stands for the value of a mapping. -/
  | valueKey
  | unknown
deriving Repr, DecidableEq

/-! ## Tags -/

/-- The start of the tags that are known. -/
def knownTagStart : List Char := "tag:yaml.org,2002:".toList

/-- What a tag says that a node is. -/
def Kind.ofTag (tag : List Char) : Kind :=
  if knownTagStart.isPrefixOf tag then
    match String.ofList (tag.drop knownTagStart.length) with
    | "null" => .null
    | "bool" => .bool
    | "int" => .int
    | "float" => .float
    | "timestamp" => .date
    | "str" => .text
    | "binary" => .bytes
    | "seq" => .sequence
    | "map" => .mapping
    | "set" => .set
    | "omap" | "pairs" => .pairs
    | "merge" => .mergeKey
    | "value" => .valueKey
    | _ => .unknown
  else .unknown

/-! ## Forms of numbers -/

/-- A digit or an underscore. -/
def isDigitOrUnderscore (c : Char) : Bool := isDigit c || c == '_'

/-- A text without a sign in front. -/
def unsigned (s : List Char) : List Char :=
  match s with
  | '+' :: rest => rest
  | '-' :: rest => rest
  | _ => s

/-- Whether a text is not empty and has only characters of a class. -/
def isRunOf (p : Char → Bool) (s : List Char) : Bool := !s.isEmpty && s.all p

/-- The pieces of a text between its colons. -/
def atColons (s : List Char) : List (List Char) := piecesAt (· == ':') [] s

/-- Whether a piece is a number below sixty in one or two digits. -/
def isSixtieth : List Char → Bool
  | [a] => isDigit a
  | [a, b] => '0' ≤ a && a ≤ '5' && isDigit b
  | _ => false

/-- Digits and underscores, a digit first. -/
def isDigitRun : List Char → Bool
  | c :: rest => isDigit c && rest.all isDigitOrUnderscore
  | [] => false

/-- A whole number: binary, octal, decimal, hexadecimal or in base sixty. -/
def isInt (s : List Char) : Bool :=
  let s := unsigned s
  match s with
  | ['0'] => true
  | '0' :: 'b' :: rest => isRunOf (fun c => c == '0' || c == '1' || c == '_') rest
  | '0' :: 'x' :: rest => isRunOf (fun c => (Json.hexValue? c).isSome || c == '_') rest
  | '0' :: rest => isRunOf (fun c => ('0' ≤ c && c ≤ '7') || c == '_') rest
  | _ =>
    match atColons s with
    | first :: rest => isDigitRun first && rest.all isSixtieth
    | [] => false

/-- Nothing, or an exponent with its sign. -/
def isPowerPart : List Char → Bool
  | [] => true
  | mark :: sign :: digits =>
    (mark == 'e' || mark == 'E') && (sign == '+' || sign == '-') && isRunOf isDigit digits
  | _ => false

/-- What follows the point of a number. -/
def isFractionPart (s : List Char) : Bool := isPowerPart (s.dropWhile isDigitOrUnderscore)

/-- A number with a point. -/
def isFloat (s : List Char) : Bool :=
  let plain := unsigned s
  let whole := plain.takeWhile (· != '.')
  match plain.dropWhile (· != '.') with
  | '.' :: rest =>
    let word := String.ofList rest
    if whole.isEmpty then
      ["inf", "Inf", "INF"].contains word
        || (s == plain && (["nan", "NaN", "NAN"].contains word
          || ((rest.head?.any isDigit) && isFractionPart rest)))
    else
      (isDigitRun whole && isFractionPart rest)
        || (match atColons whole with
          | first :: second :: later =>
            isDigitRun first && (second :: later).all isSixtieth && rest.all isDigitOrUnderscore
          | _ => false)
  | _ => false

/-! ## The form of a date -/

/-- How a time of day is said to lie to universal time. -/
inductive ZoneText where
  | universal
  | offset (negative : Bool) (hours : Nat) (minutes : Nat)
deriving Repr, DecidableEq

/-- A time of day as it is written. -/
structure ClockText where
  hour : Nat
  minute : Nat
  second : Nat
  /-- The digits after the point. -/
  fraction : List Char := []
  zone? : Option ZoneText := none
deriving Repr, DecidableEq

/-- A date as it is written, with the number of digits that its month and day take. -/
structure DateText where
  year : Nat
  month : Nat
  day : Nat
  digits : Nat
  clock? : Option ClockText := none
deriving Repr, DecidableEq

/-- One or two digits, and what follows. -/
def shortNumber? : List Char → Option (List Char × List Char)
  | a :: b :: rest =>
    if isDigit a then if isDigit b then some ([a, b], rest) else some ([a], b :: rest) else none
  | [a] => if isDigit a then some ([a], []) else none
  | [] => none

/-- Two digits, and what follows. -/
def twoDigits? : List Char → Option (List Char × List Char)
  | a :: b :: rest => if isDigit a && isDigit b then some ([a, b], rest) else none
  | _ => none

/-- What follows a given character. -/
def following? (c : Char) : List Char → Option (List Char)
  | d :: rest => if c == d then some rest else none
  | [] => none

/-- Drop spaces and tabs. -/
def dropBlanks (s : List Char) : List Char := s.dropWhile fun c => c == ' ' || c == '\t'

/-- The zone that ends a time: a `Z`, or a sign with hours and perhaps minutes.  The outer `none`
is no zone text; a text with nothing in it says nothing of the zone. -/
def zoneText? (s : List Char) : Option (Option ZoneText) :=
  match dropBlanks s with
  | [] => if s.isEmpty then some none else none
  | ['Z'] => some (some .universal)
  | sign :: rest =>
    if sign == '+' || sign == '-' then do
      let (hours, rest) ← shortNumber? rest
      let minutes ← match rest with
        | [] => some []
        | _ =>
          match ← twoDigits? (← following? ':' rest) with
          | (minutes, []) => some minutes
          | _ => none
      return some (.offset (sign == '-') (digitsValue hours) (digitsValue minutes))
    else none

/-- The time of day that ends a date: a `T` or blanks, and then hour, minute and second. -/
def clockText? (s : List Char) : Option ClockText := do
  let s ← match s with
    | 'T' :: rest => some rest
    | 't' :: rest => some rest
    | c :: _ => if c == ' ' || c == '\t' then some (dropBlanks s) else none
    | [] => none
  let (hour, s) ← shortNumber? s
  let (minute, s) ← twoDigits? (← following? ':' s)
  let (second, s) ← twoDigits? (← following? ':' s)
  let (fraction, s) := match s with
    | '.' :: rest => (rest.takeWhile isDigit, rest.dropWhile isDigit)
    | rest => ([], rest)
  return ⟨digitsValue hour, digitsValue minute, digitsValue second, fraction, ← zoneText? s⟩

/-- The date that a text writes. -/
def dateText? (s : List Char) : Option DateText := do
  let year := s.take 4
  if year.length != 4 || !year.all isDigit then none
  else
    let (month, rest) ← shortNumber? (← following? '-' (s.drop 4))
    let (day, rest) ← shortNumber? (← following? '-' rest)
    let clock? ← if rest.isEmpty then some none else (clockText? rest).map some
    return ⟨digitsValue year, digitsValue month, digitsValue day, month.length + day.length,
      clock?⟩

/-- Whether a text is a date by its form.  Without a time, month and day take two digits each. -/
def isDate (s : List Char) : Bool :=
  (dateText? s).any fun d => d.clock?.isSome || d.digits == 4

/-! ## The form of a scalar -/

/-- The words for truth and falsehood. -/
def truthWords : List String :=
  ["yes", "Yes", "YES", "no", "No", "NO", "true", "True", "TRUE", "false", "False", "FALSE",
    "on", "On", "ON", "off", "Off", "OFF"]

/-- A text without a line feed at its end, which does not count. -/
def dropLineFeed (s : List Char) : List Char :=
  if s.getLast? == some '\n' then s.dropLast else s

/-- The kind of a text that is not empty. -/
def Kind.ofWord (s : List Char) : Kind :=
  let word := String.ofList s
  if truthWords.contains word then .bool
  else if isFloat s then .float
  else if isInt s then .int
  else if word == "<<" then .mergeKey
  else if ["~", "null", "Null", "NULL"].contains word then .null
  else if isDate s then .date
  else if word == "=" then .valueKey
  else if ["!", "&", "*"].contains word then .unknown
  else .text

/-- The kind of a plain scalar. -/
def Kind.ofText (s : CodePoints) : Kind :=
  match s.chars? with
  | none => .text
  | some [] => .null
  | some chars => .ofWord (dropLineFeed chars)

end DeskCalculator.Yaml
