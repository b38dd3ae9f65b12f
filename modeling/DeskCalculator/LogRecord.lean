/-!
# Log records

What the parts of the program report beside their answers.  A record has a level, the part
that made it, and a text; which of them are shown is decided by a threshold.
-/

namespace DeskCalculator

/-- The levels, from the least to the most urgent. -/
inductive LogLevel where
  | debug
  | info
  | warning
  | error
  | critical
deriving Repr, DecidableEq

/-- The urgency of a level as a number. -/
def LogLevel.severity : LogLevel → Nat
  | .debug => 10
  | .info => 20
  | .warning => 30
  | .error => 40
  | .critical => 50

/-- The name of a level. -/
def LogLevel.name : LogLevel → String
  | .debug => "DEBUG"
  | .info => "INFO"
  | .warning => "WARNING"
  | .error => "ERROR"
  | .critical => "CRITICAL"

/-- The parts of the program that make records. -/
inductive LogSource where
  | parser
  | evaluator
  | history
  | commandLine
deriving Repr, DecidableEq

/-- The name of a part. -/
def LogSource.name : LogSource → String
  | .parser => "parser"
  | .evaluator => "evaluator"
  | .history => "history"
  | .commandLine => "command line"

/-- One record. -/
structure LogRecord where
  level : LogLevel
  source : LogSource
  text : List Char
deriving Repr, DecidableEq

/-- The records that reach a threshold; without one, all do. -/
def shown (threshold : Nat) (records : List LogRecord) : List LogRecord :=
  records.filter fun r => threshold ≤ r.level.severity

/-- A record as a line for a person. -/
def LogRecord.line (r : LogRecord) : List Char :=
  r.level.name.toList ++ " | ".toList ++ r.source.name.toList ++ " | ".toList ++ r.text
    ++ ['\n']

end DeskCalculator
