import DeskCalculator.LogRecord
import DeskCalculator.Text.Letter
import DeskCalculator.Text.Quoted

/-!
# The threshold of the log

A threshold is chosen by name.  Names are compared without regard to case; one that names no
level stands for the default threshold, except for the name of the record layout, which stands
for the layout text and is refused.

* `LogThreshold` — the thresholds that have a name.
* `chooseThreshold` — the severity that a name chooses.
-/

namespace DeskCalculator

/-- The thresholds that have a name. -/
inductive LogThreshold where
  | critical
  | fatal
  | error
  | warn
  | warning
  | info
  | debug
  | notSet
deriving Repr, DecidableEq

namespace LogThreshold

/-- All thresholds. -/
def all : List LogThreshold := [.critical, .fatal, .error, .warn, .warning, .info, .debug, .notSet]

/-- The name of a threshold. -/
def name : LogThreshold → String
  | .critical => "CRITICAL"
  | .fatal => "FATAL"
  | .error => "ERROR"
  | .warn => "WARN"
  | .warning => "WARNING"
  | .info => "INFO"
  | .debug => "DEBUG"
  | .notSet => "NOTSET"

/-- The least severity that reaches the threshold. -/
def severity : LogThreshold → Nat
  | .critical | .fatal => LogLevel.severity .critical
  | .error => LogLevel.severity .error
  | .warn | .warning => LogLevel.severity .warning
  | .info => LogLevel.severity .info
  | .debug => LogLevel.severity .debug
  | .notSet => 0

/-- The threshold of a name, in any mixture of cases. -/
def ofName? (s : List Char) : Option LogThreshold :=
  all.find? fun t => t.name.toList == raised s

end LogThreshold

/-- The layout of a record when none is chosen. -/
def recordLayout : List Char := "%(levelname)s:%(name)s:%(message)s".toList

/-- The severity that a name chooses, or what is said of a name that is refused. -/
def chooseThreshold (name : List Char) : Except (List Char) Nat :=
  if raised name = "BASIC_FORMAT".toList then
    .error ("Unknown level: ".toList ++ quoted recordLayout)
  else .ok ((LogThreshold.ofName? name).getD .warning).severity

/-- The name under which a part of the program logs, when it may have none. -/
def loggerName : Option (List Char) → List Char
  | none | some [] => "calcengine".toList
  | some name => name

end DeskCalculator
