import DeskCalculator.CommandLine.Run
import DeskCalculator.History.Moment
import Std.Time.DateTime.Timestamp

/-!
# The program

`main` lends the pure program its eyes and hands: it reads the arguments, the environment, the
two files that matter and the lines of the user, and writes what it is told to.
-/

namespace DeskCalculator

/-! ## Writing -/

/-- Write a text to the output at once. -/
def say (text : List Char) : IO Unit := do
  let output ← IO.getStdout
  output.putStr (String.ofList text)
  output.flush

/-- Write a text to the error channel. -/
def complain (text : List Char) : IO Unit := IO.eprint (String.ofList text)

/-- Write the records that reach the threshold of the settings. -/
def report (settings : Settings) (records : List LogRecord) : IO Unit :=
  (shown settings.logLevel.severity records).forM fun r => complain r.line

/-! ## The clock -/

/-- The text of the present moment. -/
def presentText : IO (List Char) := do
  let stamp ← Std.Time.Timestamp.now
  let nanoseconds : Int := stamp.toNanosecondsSinceUnixEpoch.val
  return (Moment.ofMicroseconds (nanoseconds.toNat / 1000)).text

/-! ## Files -/

/-- The file at a path, as text for the system. -/
def systemPath (p : FilePath) : String := String.ofList (p.systemText (p.systemNames?.getD []))

/-- A tree with one file. -/
def treeWith (p : FilePath) (content : List Char) : FileTree :=
  match FileTree.openForWriting {} p true with
  | (tree, .ok place) => tree.write place content
  | (tree, .error _) => tree

/-- A tree in which a path cannot be opened, since a directory is there. -/
def treeWithout (p : FilePath) : FileTree := (FileTree.makeWay {} p.root p.names.reverse).1

/-- The tree of the file at a path, as far as there is one. -/
def readTree (p : FilePath) : IO FileTree := do
  if p.objection?.isSome then return {}
  try
    return treeWith p (← IO.FS.readFile (systemPath p)).toList
  catch e =>
    match e with
    | .noFileOrDirectory .. => return {}
    | _ => return treeWithout p

/-- The tree for a journal: the file is opened for writing to see whether it can be. -/
def journalTree (s : Settings) : IO FileTree := do
  let p := s.historyFile
  if !s.historyEnabled || p.objection?.isSome then return {}
  let parent : FilePath := { p with names := p.way }
  try
    IO.FS.createDirAll (systemPath parent)
    let _ ← IO.FS.Handle.mk (systemPath p) IO.FS.Mode.append
    readTree p
  catch _ => return treeWithout p

/-- Write the journal's file as the desk has it. -/
def keepJournal (d : Desk) : IO Unit := do
  match d.session.sink.journal? with
  | none => return
  | some j =>
    match d.tree.read? j.place with
    | none => return
    | some content => IO.FS.writeFile (systemPath j.path) (String.ofList content)

/-! ## The run -/

/-- The variables of the environment that matter. -/
def readEnvironment : IO (List (List Char × List Char)) :=
  Settings.environmentKeys.filterMapM fun (name, _) => do
    return (← IO.getEnv name).map fun value => (name.toList, value.toList)

/-- Clear the desk. -/
def finish (d : Desk) (code : UInt32) : IO UInt32 := do
  let (d, records) := d.close
  keepJournal d
  report d.settings records
  return code

/-- End after a failure that the program does not survive. -/
def giveUp (d : Desk) (e : Failure) : IO UInt32 := do
  let code ← finish d 1
  complain (complaintLine e)
  return code

/-- Calculate a single expression. -/
def calculateOnce (d : Desk) (expression : List Char) : IO UInt32 := do
  let step := d.calculate (← presentText) expression
  let d := d.withSession step.session
  report d.settings step.records
  match step.outcome with
  | .ok result =>
    say (outputLine (displayText result.value))
    finish d 0
  | .error e =>
    if e.isRecoverable then
      complain (complaintLine e)
      finish d failureCode.toUInt32
    else giveUp d e

/-- Hold a conversation. -/
partial def talk (d : Desk) : IO UInt32 := do
  say d.settings.prompt.joined
  let line ← (← IO.getStdin).getLine
  if line.isEmpty then
    say ['\n']
    finish d 0
  else
    let reply := d.answer (← presentText) line.toList
    let d := d.withSession reply.session
    report d.settings reply.records
    say reply.output
    complain reply.complaints
    match reply.goesOn with
    | .ok true =>
      keepJournal d
      talk d
    | .ok false => finish d 0
    | .error e => giveUp d e

/-- What is said about the arguments. -/
def usageLine : List Char :=
  outputLine ("usage: calcengine [-h] [--config CONFIG] [--history-file HISTORY_FILE]"
    ++ " [--no-history] [--log-level LOG_LEVEL] [-e EXPRESSION]").toList

/-- A run with given arguments. -/
def work (a : Arguments) : IO UInt32 := do
  let tree ← match a.config? with
    | some p => readTree p
    | none => pure {}
  match a.settings tree (← readEnvironment) with
  | .error e =>
    complain (refusalLine e)
    return if e.isRecoverable then refusedCode.toUInt32 else 1
  | .ok settings =>
    match Desk.start (← journalTree settings) settings with
    | .error _ =>
      complain (outputLine (settings.historyFile.objection?.getD []))
      return 1
    | .ok (d, records) =>
      report settings records
      keepJournal d
      match a.expression? with
      | some expression => calculateOnce d expression
      | none => talk d

end DeskCalculator

open DeskCalculator in
/-- The program. -/
def main (arguments : List String) : IO UInt32 := do
  match Arguments.read (arguments.map String.toList) with
  | .error .help =>
    say usageLine
    return 0
  | .error e =>
    complain usageLine
    return e.code.toUInt32
  | .ok a => work a
