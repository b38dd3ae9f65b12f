import DeskCalculator.BoundedStack
import DeskCalculator.Symbol
import DeskCalculator.Text.DecimalDigit
import DeskCalculator.Text.Quoted
import DeskCalculator.Token.Lexer

/-!
# What can go wrong with a calculation

`Failure` lists the causes, `Failure.kind` sorts them into kinds, and `Failure.message` is the
one place where they are put into words.  The kinds form a hierarchy, `FailureKind.broader?`;
what lies below `calculation` comes from the user's input and leaves a session alive.
-/

namespace DeskCalculator

/-! ## Kinds -/

/-- The kinds of failure. -/
inductive FailureKind where
  /-- Any failure that the user's input causes. -/
  | calculation
  | configuration
  | unrecognizedInput
  /-- Any failure to build an expression. -/
  | unparsable
  | missingFactor
  | unknownOperator
  | invalidNumber
  | noPriorResult
  | mismatchedParentheses
  | malformedExpression
  | missingOperator
  /-- A value that an operation does not take. -/
  | invalidValue
  /-- A size beyond all bounds. -/
  | overflow
  /-- A call that the callee rules out. -/
  | brokenAssumption
deriving Repr, DecidableEq

namespace FailureKind

/-- The next broader kind. -/
def broader? : FailureKind → Option FailureKind
  | .calculation | .invalidValue | .overflow | .brokenAssumption => none
  | .configuration | .unrecognizedInput | .unparsable => some .calculation
  | .missingOperator => some .malformedExpression
  | .missingFactor | .unknownOperator | .invalidNumber | .noPriorResult
  | .mismatchedParentheses | .malformedExpression => some .unparsable

/-- Whether the kind lies below `unparsable`. -/
def isParseKind : FailureKind → Bool
  | .unparsable | .missingFactor | .unknownOperator | .invalidNumber | .noPriorResult
  | .mismatchedParentheses | .malformedExpression | .missingOperator => true
  | _ => false

/-- Whether the kind lies below `calculation`, so that a session goes on after it. -/
def isRecoverable : FailureKind → Bool
  | .invalidValue | .overflow | .brokenAssumption => false
  | _ => true

/-- A kind and all broader ones, the narrowest first. -/
def lineage (k : FailureKind) : List FailureKind :=
  let up : Option FailureKind → Option FailureKind := fun k? => k?.bind broader?
  [some k, up (some k), up (up (some k)), up (up (up (some k)))].filterMap id

/-- What a failure to build an expression says when nothing more is known. -/
def defaultMessage : FailureKind → String
  | .missingFactor => "Missing a factor"
  | .unknownOperator => "Cannot parse operator"
  | .invalidNumber => "Cannot parse factor"
  | .noPriorResult => "No calculation was made previously"
  | .mismatchedParentheses => "There are mismatched parentheses"
  | .malformedExpression => "Malformed expression"
  | .missingOperator => "Missing an operator between factors"
  | _ => "Cannot parse expression"

/-- A message of its own, unless it is missing or empty. -/
def messageOr (k : FailureKind) : Option (List Char) → List Char
  | none | some [] => k.defaultMessage.toList
  | some message => message

end FailureKind

/-! ## Wordings with a text in them -/

/-- What is said of a text that begins no token.  The text is given as it is shown. -/
def unrecognizedMessage (shown column : List Char) : List Char :=
  "Unrecognized input ".toList ++ shown ++ " at column ".toList ++ column

/-- What is said of a text that is no operator. -/
def unknownOperatorMessage (shown : List Char) : List Char :=
  "Cannot parse operator: ".toList ++ shown

/-- What is said of a text that is no number. -/
def invalidNumberMessage (shown : List Char) : List Char :=
  "Cannot parse factor: ".toList ++ shown

/-- What is said of a stack that cannot be made or cannot grow. -/
def StackFailure.message : StackFailure → List Char
  | .negativeCapacity n => "Stack capacity must be non-negative, got ".toList ++ intText n
  | .capacityTooLarge => "Initial allocation too large".toList
  | .growthTooSmall n => "Stack growth increment must be positive, got ".toList ++ intText n
  | .capacityOverflow => "Capacity overflow".toList

/-- The kind of a stack's failure. -/
def StackFailure.kind : StackFailure → FailureKind
  | .negativeCapacity _ | .growthTooSmall _ => .invalidValue
  | .capacityTooLarge | .capacityOverflow => .overflow

/-! ## Causes -/

/-- Why a calculation fails. -/
inductive Failure where
  /-- A character of the line begins no token. -/
  | lex (e : LexFailure)
  /-- There is no token at all. -/
  | emptyExpression
  /-- There is no text where an operand is due. -/
  | noOperand
  /-- An operation has fewer than two operands. -/
  | missingOperandOf (s : Symbol)
  /-- A text that is no operand is no symbol either. -/
  | unknownOperator (text : List Char)
  /-- The text of an operand is no number. -/
  | invalidNumber (text : List Char)
  /-- The previous result is asked for and there is none. -/
  | noPriorResult (text : List Char)
  /-- A bracket has no partner. -/
  | mismatchedParentheses
  /-- Nothing is left when all tokens are read. -/
  | noResult
  /-- More than one factor is left when all tokens are read. -/
  | missingOperator
  /-- A bracket is to be the operation of an expression. -/
  | bracketAsOperation (s : Symbol)
  /-- A bracket is to be applied to numbers. -/
  | bracketApplied (s : Symbol)
  /-- A value is missing while an expression is evaluated. -/
  | missingValue
  /-- A stack cannot be made or cannot grow. -/
  | stack (e : StackFailure)
deriving Repr, DecidableEq

namespace Failure

/-- The kind of a failure. -/
def kind : Failure → FailureKind
  | .lex _ => .unrecognizedInput
  | .emptyExpression | .noOperand | .missingOperandOf _ => .missingFactor
  | .unknownOperator _ => .unknownOperator
  | .invalidNumber _ => .invalidNumber
  | .noPriorResult _ => .noPriorResult
  | .mismatchedParentheses => .mismatchedParentheses
  | .noResult => .malformedExpression
  | .missingOperator => .missingOperator
  | .bracketAsOperation _ => .invalidValue
  | .bracketApplied _ | .missingValue => .brokenAssumption
  | .stack e => e.kind

/-- The words for a failure. -/
def message : Failure → List Char
  | .lex e => unrecognizedMessage (quoted [e.found]) (natText e.column)
  | .emptyExpression => "Empty expression".toList
  | .noOperand => FailureKind.missingFactor.defaultMessage.toList
  | .missingOperandOf s => "Missing a factor for operator ".toList ++ [s.char]
  | .unknownOperator text => unknownOperatorMessage (quoted text)
  | .invalidNumber text => invalidNumberMessage (quoted text)
  | .noPriorResult _ => FailureKind.noPriorResult.defaultMessage.toList
  | .mismatchedParentheses => FailureKind.mismatchedParentheses.defaultMessage.toList
  | .noResult => "Expression produced no result".toList
  | .missingOperator => FailureKind.missingOperator.defaultMessage.toList
  | .bracketAsOperation s =>
    "Brackets cannot be used as an expression operator: ".toList ++ [s.char]
  | .bracketApplied s => "Trying to evaluate a bracket: ".toList ++ [s.char]
  | .missingValue => "A value is missing".toList
  | .stack e => e.message

/-- The text of the token at fault, where there is one. -/
def token? : Failure → Option (List Char)
  | .unknownOperator text | .invalidNumber text | .noPriorResult text => some text
  | _ => none

/-- Whether a session goes on after the failure. -/
def isRecoverable (e : Failure) : Bool := e.kind.isRecoverable

end Failure

end DeskCalculator
