import DeskCalculator.Decimal.Notation
import DeskCalculator.Json.Printer
import DeskCalculator.Json.Reader

/-!
# History entries

An entry records a calculation: its text, its value and the time.  It is written in one of two
formats and read back from either.

* `HistoryEntry.line` and `RecalledEntry.ofLine` — `expression=value`, without the time.
* `HistoryEntry.json` and `RecalledEntry.ofJson` — an object on one line.

What is read back is a `RecalledEntry`: the JSON format does not insist that the expression and
the time are texts.
-/

namespace DeskCalculator

/-! ## Entries -/

/-- A calculation that was made. -/
structure HistoryEntry where
  expression : List Char
  value : Float
  timestamp : List Char := []

/-- An entry as it is read back. -/
structure RecalledEntry where
  expression : Json
  value : Float
  timestamp : Json := .string []

/-- The entry that is read back if nothing is lost. -/
def HistoryEntry.recalled (e : HistoryEntry) : RecalledEntry :=
  ⟨.string e.expression, e.value, .string e.timestamp⟩

/-! ## Writing -/

/-- The entry as a line of text. -/
def HistoryEntry.line (e : HistoryEntry) : List Char :=
  e.expression ++ '=' :: fullText e.value

/-- The entry as a line of JSON.  The value is a string, so that infinities can be written. -/
def HistoryEntry.json (e : HistoryEntry) : List Char :=
  Json.print (.object
    [("expression".toList, .string e.expression),
     ("result".toList, .string (fullText e.value)),
     ("timestamp".toList, .string e.timestamp)])

/-! ## Reading -/

/-- Why a line is not read as an entry. -/
inductive EntryFailure where
  /-- The text is not JSON. -/
  | json (e : JsonFailure)
  /-- The JSON value is no object. -/
  | notAnObject
  /-- The object has no value. -/
  | noValue
  /-- The value is neither a number nor a text. -/
  | valueNotANumber
  /-- The value is a whole number beyond all doubles. -/
  | valueTooLarge
  /-- The value is a text that writes no number. -/
  | unreadableNumber (text : CodePoints)
  /-- The object has a key that an entry has not, or lacks the expression. -/
  | wrongKeys
  /-- The line of text has nothing before its last equals sign, or none. -/
  | notALine (line : List Char)
deriving Repr, DecidableEq

/-- Whether the reader of a file passes over the line.  It does, except for a value that is too
large. -/
def EntryFailure.isSkipped : EntryFailure → Bool
  | .valueTooLarge => false
  | _ => true

/-- The words for a failure. -/
def EntryFailure.message : EntryFailure → List Char
  | .json (.integerTooLong digits) => tooManyDigitsMessage digits
  | .unreadableNumber text => "could not convert string to float: ".toList ++ text.quoted
  | .notALine line => "Not a history line: ".toList ++ quoted line
  | _ => []

/-- The value that a text writes. -/
def readValueText (s : List Char) : Except EntryFailure Float :=
  match readFloat? s with
  | some v => .ok v
  | none => .error (.unreadableNumber (codePoints s))

/-- The value that a JSON value stands for. -/
def valueOfJson : Json → Except EntryFailure Float
  | .bool b => .ok (if b then 1.0 else 0.0)
  | .int n =>
    match floatOfInt? n with
    | some v => .ok v
    | none => .error .valueTooLarge
  | .float v => .ok v
  | .string s => readValueText s
  | .surrogates s => .error (.unreadableNumber s)
  | .null | .array _ | .object _ => .error .valueNotANumber

namespace RecalledEntry

/-- Whether a key is one of an entry. -/
def isKey (key : List Char) : Bool :=
  key == "expression".toList || key == "result".toList || key == "timestamp".toList

/-- The entry that an object stands for.  Its value is looked at before its keys are. -/
def ofObject (data : Json) : Except EntryFailure RecalledEntry :=
  match data with
  | .object members =>
    match data.get? "result".toList with
    | none => .error .noValue
    | some value => do
      let value ← valueOfJson value
      if !(members.all fun m => isKey m.1) then .error .wrongKeys
      else
        match data.get? "expression".toList with
        | none => .error .wrongKeys
        | some expression =>
          .ok ⟨expression, value, (data.get? "timestamp".toList).getD (.string [])⟩
  | _ => .error .notAnObject

/-- Read an entry from a line of JSON. -/
def ofJson (s : List Char) : Except EntryFailure RecalledEntry :=
  match Json.parse s with
  | .error e => .error (.json e)
  | .ok data => ofObject data

/-- Cut a text at its last equals sign. -/
def splitAtEquals? (s : List Char) : Option (List Char × List Char) :=
  let after := (s.reverse.takeWhile (· != '=')).reverse
  match s.reverse.dropWhile (· != '=') with
  | [] => none
  | _ :: before => some (before.reverse, after)

/-- Read an entry from a line of text. -/
def ofLine (s : List Char) : Except EntryFailure RecalledEntry :=
  match splitAtEquals? s with
  | none | some ([], _) => .error (.notALine s)
  | some (expression, value) => do
    let value ← readValueText value
    .ok { expression := .string expression, value }

end RecalledEntry

end DeskCalculator
