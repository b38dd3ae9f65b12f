import DeskCalculator.Decimal.Reader
import DeskCalculator.Failure

/-!
# The value of an operand

An operand is the word for the previous result or a plain decimal number: digits, with a
fraction or without.  Signs, exponents and the words for infinity are not part of a plain
number.
-/

namespace DeskCalculator

/-- The value of an operand's text, given the previous result. -/
def resolve (last? : Option Float) (text : List Char) : Except Failure Float :=
  if isAnswerWord text then
    match last? with
    | some v => .ok v
    | none => .error (.noPriorResult text)
  else if isNumber text then .ok (literalValue text)
  else .error (.invalidNumber text)

/-- The value of an operand that may be absent. -/
def resolveOptional (last? : Option Float) : Option (List Char) → Except Failure Float
  | some text => resolve last? text
  | none => .error .noOperand

/-! ## Operands that have a value -/

/-- The text of a number begins with a digit. -/
theorem head_of_isNumber {s : List Char} (h : isNumber s = true) :
    ∃ c rest, s = c :: rest ∧ isDigit c = true := by
  cases s with
  | nil => cases h
  | cons c rest =>
    cases hc : isDigit c with
    | true => exact ⟨c, rest, rfl, hc⟩
    | false => simp [isNumber, hc] at h

/-- A digit is no capital letter. -/
theorem toLower_of_isDigit {c : Char} (h : isDigit c = true) : c.toLower = c := by
  simp only [isDigit, Bool.and_eq_true, decide_eq_true_eq] at h
  exact toLower_of_not_capital (by omega)

/-- A number is not the word for the previous result. -/
theorem isAnswerWord_of_isNumber {s : List Char} (h : isNumber s = true) :
    isAnswerWord s = false := by
  obtain ⟨c, rest, rfl, hc⟩ := head_of_isNumber h
  rw [← Bool.not_eq_true]
  intro hans
  have heq : lowered (c :: rest) = "ans".toList := by simpa [isAnswerWord, isKeyword] using hans
  have hhead : c.toLower = 'a' := (List.cons.inj heq).1
  rw [toLower_of_isDigit hc] at hhead
  rw [hhead] at hc
  exact absurd hc (by decide)

/-- The text of a number stands for its value, whatever the previous result. -/
theorem resolve_of_isNumber (last? : Option Float) {text : List Char} (h : isNumber text = true) :
    resolve last? text = .ok (literalValue text) := by
  simp [resolve, isAnswerWord_of_isNumber h, h]

/-- Only the word for the previous result depends on it. -/
theorem resolve_of_not_isAnswerWord {text : List Char} (h : isAnswerWord text = false)
    (last? last?' : Option Float) : resolve last? text = resolve last?' text := by
  simp [resolve, h]

/-- The word for the previous result stands for it, if there is one. -/
theorem resolve_of_isAnswerWord {v : Float} {text : List Char} (h : isAnswerWord text = true) :
    resolve (some v) text = .ok v := by
  simp [resolve, h]

end DeskCalculator
