import DeskCalculator.Datum
import DeskCalculator.Text.Base64
import DeskCalculator.Text.LowerCase
import DeskCalculator.Yaml.Failure
import DeskCalculator.Yaml.Kind

/-!
# The values of scalars

What a text stands for that has the form of a value, or is said to have it.  The readers are more
generous than the forms: they also take what a tag only claims.

* `readWhole` — a whole number in a base.
* `intValue`, `floatValue`, `dateValue`, … — the values of one kind each.
* `Kind.value` — the value of a text of any kind.
-/

namespace DeskCalculator.Yaml

/-! ## Whole numbers -/

/-- Drop the letter that says the base of a number, after a zero. -/
def dropBaseSign (base : Nat) (s : List Char) : List Char :=
  match s with
  | '0' :: mark :: rest =>
    let letter := mark.toLower
    if (base == 16 && letter == 'x') || (base == 8 && letter == 'o') || (base == 2 && letter == 'b')
    then rest else s
  | _ => s

/-- Whether a character is a digit of a base. -/
def isDigitOf (base : Nat) (c : Char) : Bool := (Json.hexValue? c).any (· < base)

/-- The number that digits write in a base. -/
def valueIn (base : Nat) (digits : List Char) : Nat :=
  (digits.filterMap Json.hexValue?).foldl (fun n d => base * n + d) 0

/-- The whole number that a text writes in a base, with a sign and with white space around it. -/
def readWhole (base : Nat) (text : CodePoints) : Except ScalarFailure Int :=
  let s := (text.replaced.map toAsciiDigit).dropWhile isWhiteSpace
  let (negative, s) := match s with
    | '-' :: rest => (true, rest)
    | '+' :: rest => (false, rest)
    | _ => (false, s)
  let s := dropBaseSign base s
  let digits := s.takeWhile (isDigitOf base)
  if base == 10 && maxIntegerDigits < digits.length then .error (.tooManyDigits digits.length)
  else if digits.isEmpty || !(s.dropWhile (isDigitOf base)).all isWhiteSpace then
    .error (.badDigits base text)
  else .ok (if negative then -(valueIn base digits : Int) else valueIn base digits)

/-! ## Signs and parts -/

/-- A text without its underscores. -/
def withoutUnderscores (s : CodePoints) : CodePoints := s.filter (· != '_'.toNat)

/-- A number's sign, as whether it is a minus, and what follows it.  There must be something to
look at. -/
def readSign (s : CodePoints) : Except ScalarFailure (Bool × CodePoints) :=
  match s with
  | [] => .error .noDigits
  | c :: rest =>
    if c = '-'.toNat then .ok (true, rest)
    else if c = '+'.toNat then .ok (false, rest)
    else .ok (false, s)

/-- The parts of a number between its colons. -/
def partsOf (s : CodePoints) : List CodePoints := piecesAt (· == ':'.toNat) [] s

/-! ## Numbers -/

/-- The whole number that a text writes, without its sign. -/
def magnitude (s : CodePoints) : Except ScalarFailure Int :=
  match s.replaced with
  | [] => .error .noDigits
  | ['0'] => .ok 0
  | '0' :: 'b' :: _ => readWhole 2 (s.drop 2)
  | '0' :: 'x' :: _ => readWhole 16 (s.drop 2)
  | '0' :: _ => readWhole 8 s
  | _ => do
    let parts ← (partsOf s).mapM (readWhole 10)
    .ok (parts.foldl (fun n d => 60 * n + d) 0)

/-- The whole number that a text writes. -/
def intValue (s : CodePoints) : Except ScalarFailure Int := do
  let (negative, s) ← readSign (withoutUnderscores s)
  let n ← magnitude s
  .ok (if negative then -n else n)

/-- Read a number with a point. -/
def readNumber (part : CodePoints) : Except ScalarFailure Float :=
  (readFloat? part.replaced).elim (.error (.badNumber part)) .ok

/-- The sum of parts, each worth sixty times the next one.  The last one comes first and is added
first. -/
def sexagesimal (sum : Float) (weight : Nat) : List Float → Except ScalarFailure Float
  | [] => .ok sum
  | part :: rest =>
    match floatOfInt? weight with
    | none => .error .tooHeavy
    | some w => sexagesimal (sum + part * w) (60 * weight) rest

/-- The number with a point that a text writes, without its sign. -/
def floatMagnitude (s : CodePoints) : Except ScalarFailure Float :=
  if s == codePoints ".inf".toList then .ok (infiniteFloat false)
  else if s == codePoints ".nan".toList then .ok nanFloat
  else do
    match ← (partsOf s).mapM readNumber with
    | [one] => .ok one
    | parts => sexagesimal 0.0 1 parts.reverse

/-- The number with a point that a text writes. -/
def floatValue (s : CodePoints) : Except ScalarFailure Float := do
  let (negative, s) ← readSign (lowerCase (withoutUnderscores s))
  let size ← floatMagnitude s
  .ok (if negative then -size else size)

/-! ## Dates -/

/-- The microseconds that the digits after a point write: six of them count. -/
def microseconds (fraction : List Char) : Nat :=
  digitsValue ((fraction ++ List.replicate 6 '0').take 6)

/-- The distance from universal time in minutes. -/
def ZoneText.minutes : ZoneText → Int
  | .universal => 0
  | .offset negative hours minutes =>
    let size : Int := hours * 60 + minutes
    if negative then -size else size

/-- The time of day that is written. -/
def ClockText.time (t : ClockText) : ClockTime :=
  { hour := t.hour, minute := t.minute, second := t.second
    microsecond := microseconds t.fraction, offset? := t.zone?.map ZoneText.minutes }

/-- The date that a text writes. -/
def dateValue (s : CodePoints) : Except ScalarFailure CalendarTime :=
  match s.chars?.bind fun s => dateText? (dropLineFeed s) with
  | none => .error .notADate
  | some d =>
    let t : CalendarTime :=
      { year := d.year, month := d.month, day := d.day, time? := d.clock?.map ClockText.time }
    match t.objection? with
    | some o => .error (.badDate o)
    | none => .ok t

/-! ## All kinds -/

/-- The truth value of a word. -/
def boolValue (s : CodePoints) : Except ScalarFailure Bool :=
  match String.ofList ((lowerCase s).replaced) with
  | "yes" | "true" | "on" => .ok true
  | "no" | "false" | "off" => .ok false
  | _ => .error .unknownWord

/-- The bytes that a text of ASCII writes. -/
def bytesValue? (s : CodePoints) : Option (List Nat) :=
  if s.all (· < 0x80) then decodeBase64? s.replaced else none

/-- What a text of a kind stands for; collections and keys with a meaning of their own have no
text. -/
def Kind.value (kind : Kind) (s : CodePoints) : Except Failure Datum :=
  let checked {β : Type} (make : β → Datum) (r : Except ScalarFailure β) : Except Failure Datum :=
    match r with
    | .ok v => .ok (make v)
    | .error e => .error (.badScalar e)
  match kind with
  | .null => .ok .null
  | .bool => checked .bool (boolValue s)
  | .int => checked .int (intValue s)
  | .float => checked .float (floatValue s)
  | .date => checked .date (dateValue s)
  | .text => .ok (.ofCodePoints s)
  | .bytes => (bytesValue? s).elim (.error .malformed) fun octets => .ok (.bytes octets)
  | .sequence | .mapping | .set | .pairs | .mergeKey | .valueKey | .unknown => .error .malformed

end DeskCalculator.Yaml
