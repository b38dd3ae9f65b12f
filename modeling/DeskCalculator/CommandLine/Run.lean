import DeskCalculator.CommandLine.Desk

/-!
# A run of the program

`run` is the whole program as a function: from the arguments, the environment, the files and the
input to the way it ends, what it writes, the files afterwards and what is logged.
-/

namespace DeskCalculator

/-! ## What a run depends on and what it gives -/

/-- What a run depends on. -/
structure Surroundings where
  arguments : List (List Char)
  environment : List (List Char × List Char) := []
  tree : FileTree := {}
  input : List Char := []
  /-- Whether the user interrupts the program where the input ends. -/
  interrupted : Bool := false
  /-- The time of every calculation. -/
  now : List Char := []

/-- How a run ends. -/
inductive Outcome where
  /-- The arguments end it. -/
  | arguments (e : ArgumentsEnding)
  /-- There are no settings, which is reported. -/
  | refused (e : SettingsFailure)
  /-- There are no settings, and the program fails. -/
  | unsettled (e : SettingsFailure)
  /-- The journal's path is none, and the program fails. -/
  | unopened (e : FileFailure)
  /-- It is done. -/
  | finished (code : Nat)
  /-- A calculation fails in a way that the program does not survive. -/
  | failed (e : Failure)

/-- What a run gives. -/
structure Report where
  outcome : Outcome
  output : List Char := []
  complaints : List Char := []
  tree : FileTree
  /-- The records that reach the threshold. -/
  records : List LogRecord := []

/-! ## Exit codes -/

/-- The exit code after a calculation that fails. -/
def failureCode : Nat := 1

/-- The exit code when settings are refused. -/
def refusedCode : Nat := 2

/-- The exit code after an interrupt. -/
def interruptCode : Nat := 130

/-! ## The run -/

/-- What is written when settings are refused. -/
def refusalLine (e : SettingsFailure) : List Char :=
  outputLine ("Error: invalid configuration: ".toList ++ e.message)

/-- Clear the desk at the end of a run. -/
def Desk.finish (d : Desk) (outcome : Outcome) (output complaints : List Char)
    (records : List LogRecord) : Report :=
  let (d, closing) := d.close
  { outcome, output, complaints, tree := d.tree
    records := shown d.settings.logLevel.severity (records ++ closing) }

/-- Calculate a single expression. -/
def Desk.runExpression (d : Desk) (now expression : List Char) (records : List LogRecord) :
    Report :=
  let step := d.calculate now expression
  let d := d.withSession step.session
  let records := records ++ step.records
  match step.outcome with
  | .ok result => d.finish (.finished 0) (outputLine (displayText result.value)) [] records
  | .error e =>
    if e.isRecoverable then d.finish (.finished failureCode) [] (complaintLine e) records
    else d.finish (.failed e) [] [] records

/-- Hold a conversation. -/
def Desk.runConversation (d : Desk) (now input : List Char) (interrupted : Bool)
    (records : List LogRecord) : Report :=
  let c := d.converse now (linesOf input)
  let d := d.withSession c.session
  let records := records ++ c.records
  match c.ending with
  | .exitWord => d.finish (.finished 0) c.output c.complaints records
  | .endOfInput =>
    if interrupted then d.finish (.finished interruptCode) c.output c.complaints records
    else d.finish (.finished 0) (outputLine c.output) c.complaints records
  | .failed e => d.finish (.failed e) c.output c.complaints records

/-- A run whose settings are known. -/
def runWith (w : Surroundings) (expression? : Option (List Char)) (settings : Settings) :
    Report :=
  match Desk.start w.tree settings with
  | .error e => { outcome := .unopened e, tree := w.tree }
  | .ok (d, records) =>
    match expression? with
    | some expression => d.runExpression w.now expression records
    | none => d.runConversation w.now w.input w.interrupted records

/-- The whole program. -/
def run (w : Surroundings) : Report :=
  match Arguments.read w.arguments with
  | .error e => { outcome := .arguments e, tree := w.tree }
  | .ok a =>
    match a.settings w.tree w.environment with
    | .ok settings => runWith w a.expression? settings
    | .error e =>
      if e.isRecoverable then
        { outcome := .refused e, complaints := refusalLine e, tree := w.tree }
      else { outcome := .unsettled e, tree := w.tree }

end DeskCalculator
