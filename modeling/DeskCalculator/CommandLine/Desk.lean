import DeskCalculator.CommandLine.Arguments
import DeskCalculator.Settings.Layers
import DeskCalculator.Transcript

/-!
# The calculator that the settings describe

* `Arguments.settings` — the settings of a run: document, environment, command line.
* `Archive` — the files of a run, and the journal on one of them, if there is one.
* `Desk` — settings, and a session whose listener is the archive.
-/

namespace DeskCalculator

/-! ## The settings of a run -/

namespace Arguments

/-- The value of a switch as plain data.  One that is missing replaces nothing, and two dashes in
its place are an empty list, which no setting takes. -/
def valueData : Option SwitchValue → Datum
  | none => .null
  | some (.text s) => .text s
  | some .nothing => .list []

/-- The settings that the command line replaces. -/
def changes (a : Arguments) : List (Datum × Datum) :=
  [(SettingKey.historyFile.datum, valueData a.historyFile?),
    (SettingKey.logLevel.datum, valueData a.logLevel?),
    (SettingKey.historyEnabled.datum, if a.noHistory then .bool false else .null)]

/-- The settings of a run. -/
def settings (a : Arguments) (tree : FileTree) (environment : List (List Char × List Char)) :
    Except SettingsFailure Settings := do
  (← Settings.load tree a.config? environment).override a.changes

end Arguments

/-! ## Files and journal -/

/-- A record of the command line. -/
def commandLineRecord (level : LogLevel) (text : List Char) : LogRecord :=
  ⟨level, .commandLine, text⟩

/-- The files of a run, and the journal on one of them, if there is one. -/
structure Archive where
  journal? : Option Journal := none
  tree : FileTree

namespace Archive

/-- Open the journal that the settings ask for.  A file that cannot be opened is no reason not
to calculate, but a path that is none is one. -/
def start (tree : FileTree) (s : Settings) : Except FileFailure (Archive × List LogRecord) :=
  if s.historyEnabled then
    match Journal.open? tree s.historyFile s.historyFormat s.historyTruncate with
    | (tree, .ok journal) => .ok ({ journal? := some journal, tree }, [])
    | (tree, .error e) =>
      if e.isOfPath then .error e
      else
        .ok ({ tree },
          [commandLineRecord .warning
            ("History disabled, cannot open ".toList ++ s.historyFile.shown)])
  else .ok ({ tree }, [])

/-- The archive as a listener: what it hears goes into the journal. -/
def sink (now : List Char) : Sink Archive where
  notify := fun a n =>
    match a.journal? with
    | none => { state := a }
    | some journal =>
      let (journal, tree, records) := journal.notify a.tree now n
      { state := { journal? := some journal, tree }, records }

/-- The time that a journal is given to close, in seconds. -/
def closingTime : List Char := "5.0".toList

/-- Close the journal, and say where it is. -/
def close (a : Archive) : Archive × List LogRecord :=
  match a.journal? with
  | none => (a, [])
  | some journal =>
    let (journal, tree, records) := journal.close a.tree closingTime
    ({ journal? := some journal, tree },
      records ++ [commandLineRecord .debug ("History written to ".toList ++ journal.path.shown)])

end Archive

/-! ## The desk -/

/-- A calculator with its settings and its archive. -/
structure Desk where
  settings : Settings
  session : Session Archive

namespace Desk

/-- The calculator that the settings describe. -/
def start (tree : FileTree) (settings : Settings) : Except FileFailure (Desk × List LogRecord) := do
  let (archive, records) ← Archive.start tree settings
  .ok ({ settings, session := { sink := archive } }, records)

/-- Calculate one line. -/
def calculate (d : Desk) (now line : List Char) : Step Archive Evaluation :=
  d.session.calculate d.settings.limits (Archive.sink now) line

/-- Answer one line of a conversation. -/
def answer (d : Desk) (now line : List Char) : LineReply Archive :=
  answerLine d.settings.limits (Archive.sink now) d.session line

/-- Hold a conversation over given lines. -/
def converse (d : Desk) (now : List Char) (lines : List (List Char)) : Conversation Archive :=
  DeskCalculator.converse d.settings.limits (Archive.sink now) d.settings.prompt.joined d.session
    lines

/-- Put the session of a later time on the desk. -/
def withSession (d : Desk) (session : Session Archive) : Desk := { d with session }

/-- Close the archive. -/
def close (d : Desk) : Desk × List LogRecord :=
  let (archive, records) := d.session.sink.close
  (d.withSession { d.session with sink := archive }, records)

/-- The files. -/
def tree (d : Desk) : FileTree := d.session.sink.tree

end Desk

end DeskCalculator
