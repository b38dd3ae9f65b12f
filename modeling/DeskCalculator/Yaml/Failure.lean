import DeskCalculator.Calendar
import DeskCalculator.Json.Reader
import DeskCalculator.Text.CodePoint

/-!
# Failures of documents

A document is malformed, or it is well formed and says of a scalar that it is something which its
text is not.

* `ScalarFailure` — what can be wrong with one scalar, and the words for what is reported.
* `Failure` — why a document gives no data.
-/

namespace DeskCalculator.Yaml

/-- What is wrong with a scalar. -/
inductive ScalarFailure where
  /-- A text that is no whole number in a base. -/
  | badDigits (base : Nat) (text : CodePoints)
  /-- A whole number of too many digits. -/
  | tooManyDigits (count : Nat)
  /-- A text that is no number. -/
  | badNumber (text : CodePoints)
  /-- Numbers that are no date or time. -/
  | badDate (o : CalendarObjection)
  /-- An escape whose number is beyond all code points. -/
  | noCodePoint
  /-- An escape whose number takes more than thirty-one bits. -/
  | hugeCodePoint
  /-- A word that is said to be a truth value. -/
  | unknownWord
  /-- A number without any digit, or without any character. -/
  | noDigits
  /-- A text that is said to be a date and does not look like one. -/
  | notADate
  /-- A mapping that is said to be a date. -/
  | notAText
  /-- A number with so many parts that their weight is beyond all doubles. -/
  | tooHeavy
deriving Repr, DecidableEq

namespace ScalarFailure

/-- The most characters of a text that are shown when it is no whole number. -/
def shownLength : Nat := 200

/-- The words for a failure that is reported. -/
def message : ScalarFailure → List Char
  | .badDigits base text =>
    "invalid literal for int() with base ".toList ++ natText base ++ ": ".toList
      ++ text.quoted.take shownLength
  | .tooManyDigits count => tooManyDigitsMessage count
  | .badNumber text => "could not convert string to float: ".toList ++ text.quoted
  | .badDate o => o.message
  | .noCodePoint => "chr() arg not in range(0x110000)".toList
  | .hugeCodePoint | .unknownWord | .noDigits | .notADate | .notAText | .tooHeavy => []

/-- Whether the failure is one of a value, so that it is reported. -/
def isReported : ScalarFailure → Bool
  | .badDigits _ _ | .tooManyDigits _ | .badNumber _ | .badDate _ | .noCodePoint => true
  | .hugeCodePoint | .unknownWord | .noDigits | .notADate | .notAText | .tooHeavy => false

end ScalarFailure

/-- Why a document gives no data. -/
inductive Failure where
  | malformed
  | badScalar (e : ScalarFailure)
deriving Repr, DecidableEq

end DeskCalculator.Yaml
