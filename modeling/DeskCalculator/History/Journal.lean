import DeskCalculator.FileTree
import DeskCalculator.History.Entry
import DeskCalculator.History.Worker
import DeskCalculator.Session
import DeskCalculator.Text.Blank
import DeskCalculator.Text.Lines

/-!
# A history kept in a file

A journal writes entries to a file, in one of two formats, by a worker of its own.  Here its
actions are put in one order: after each request the worker goes on, and if nothing else is said,
until it has nothing to do, unless it is held up.

* `Journal.open?` — a new journal on a file, emptied or continued.
* `notify`, `flush`, `close`, `holdUp`, `release` — the requests.
* `Journal.sink` — the journal as a listener of a session.
* `Recollection.ofContent` — the entries of a file, with what is logged about lines that are none.
-/

namespace DeskCalculator

/-! ## Formats -/

/-- The two formats of a history file. -/
inductive HistoryFormat where
  | text
  | jsonl
deriving Repr, DecidableEq

namespace HistoryFormat

/-- The name of a format. -/
def name : HistoryFormat → String
  | .text => "text"
  | .jsonl => "jsonl"

/-- The format of a name. -/
def ofName? (s : List Char) : Option HistoryFormat :=
  [HistoryFormat.text, .jsonl].find? fun f => f.name.toList == s

/-- An entry as a line of the format. -/
def write : HistoryFormat → HistoryEntry → List Char
  | .text, e => e.line
  | .jsonl, e => e.json

/-- A line of the format as an entry. -/
def read : HistoryFormat → List Char → Except EntryFailure RecalledEntry
  | .text, s => RecalledEntry.ofLine s
  | .jsonl, s => RecalledEntry.ofJson s

end HistoryFormat

/-! ## Reading a file back -/

/-- A record of the history. -/
def historyRecord (level : LogLevel) (text : List Char) : LogRecord := ⟨level, .history, text⟩

/-- What is read back from a file. -/
structure Recollection where
  entries : List RecalledEntry := []
  /-- The line that ended the reading. -/
  failure? : Option EntryFailure := none
  records : List LogRecord := []

/-- Read the lines of a file.  A line that is no entry is passed over, unless its value is too
large for one. -/
def Recollection.ofLines (format : HistoryFormat) : List (List Char) → Recollection
  | [] => {}
  | line :: rest =>
    match format.read line with
    | .ok e =>
      let later := Recollection.ofLines format rest
      { later with entries := e :: later.entries }
    | .error e =>
      if e.isSkipped then
        let later := Recollection.ofLines format rest
        let skipped :=
          historyRecord .debug ("Skipping unreadable history line: ".toList ++ line)
        { later with records := skipped :: later.records }
      else { failure? := some e }

/-- Read a file's content: its lines without the blanks around them, as far as they have
anything else. -/
def Recollection.ofContent (format : HistoryFormat) (content : List Char) : Recollection :=
  Recollection.ofLines format (((fileLines content).map trimBlank).filter fun line => !line.isEmpty)

/-! ## The journal -/

/-- Why a journal is not opened. -/
inductive JournalFailure where
  | unknownFormat (name : List Char)
  | file (e : FileFailure)
deriving Repr, DecidableEq

/-- The words for a format that there is not. -/
def unknownFormatMessage (name : List Char) : List Char :=
  "Unknown history format: ".toList ++ name

/-- A history kept in a file. -/
structure Journal where
  path : FilePath
  /-- Where the path led when the journal was opened. -/
  place : Place
  format : HistoryFormat
  /-- Whether each line goes to the end of the file, wherever that is by then. -/
  appends : Bool
  /-- The number of bytes written, where a journal that does not append writes next. -/
  written : Nat := 0
  /-- Whether the file that was opened is still the one at its path. -/
  attached : Bool := true
  /-- Whether the worker is held up before it writes. -/
  heldUp : Bool := false
  worker : Worker HistoryEntry := {}

namespace Journal

/-- A new journal and the tree afterwards.  The directories on the way to its file are made. -/
def open? (tree : FileTree) (path : FilePath) (format : HistoryFormat) (truncate : Bool) :
    FileTree × Except FileFailure Journal :=
  match tree.openForWriting path truncate with
  | (tree, .ok place) => (tree, .ok { path, place, format, appends := !truncate })
  | (tree, .error e) => (tree, .error e)

/-- A new journal whose format is given by name. -/
def openNamed? (tree : FileTree) (path : FilePath) (format : List Char) (truncate : Bool) :
    FileTree × Except JournalFailure Journal :=
  match HistoryFormat.ofName? format with
  | none => (tree, .error (.unknownFormat format))
  | some f =>
    match Journal.open? tree path f truncate with
    | (tree, .ok journal) => (tree, .ok journal)
    | (tree, .error e) => (tree, .error (.file e))

/-! ### What the worker does -/

/-- Write a line to the file.  If the file has been taken away, the line is lost. -/
def writeLine (j : Journal) (tree : FileTree) (line : List Char) : Journal × FileTree :=
  let text := line ++ ['\n']
  let tree :=
    if j.attached then
      let content := (tree.read? j.place).getD []
      tree.write j.place
        (if j.appends then content ++ text else FileTree.overwrite content j.written text)
    else tree
  ({ j with written := j.written + textBytes text }, tree)

/-- What is logged when an entry cannot be written. -/
def writeFailed (j : Journal) : LogRecord :=
  historyRecord .warning
    ("Could not write history to ".toList ++ j.path.shown
      ++ ": I/O operation on closed file.".toList)

/-- The next thing that the worker does, if there is anything. -/
def advance? (j : Journal) (tree : FileTree) : Option (Journal × FileTree × List LogRecord) :=
  let becoming (worker : Worker HistoryEntry) : Journal := { j with worker }
  match j.worker.hand with
  | .empty => j.worker.take?.map fun w => (becoming w, tree, [])
  | .taken (.entry e) =>
    if j.heldUp then none
    else if j.worker.fileOpen then
      (j.worker.handle? true).map fun w =>
        let (written, tree) := (becoming w).writeLine tree (j.format.write e)
        (written, tree, [])
    else
      (j.worker.handle? false).map fun w => (becoming w, tree, [j.writeFailed])
  | .taken .stop => (j.worker.handle? false).map fun w => (becoming w, tree, [])
  | .handled _ => j.worker.account?.map fun w => (becoming w, tree, [])
  | .gone => none

/-- Let the worker go on for a number of actions at most. -/
def advance (j : Journal) (tree : FileTree) : Nat → Journal × FileTree × List LogRecord
  | 0 => (j, tree, [])
  | fuel + 1 =>
    match j.advance? tree with
    | none => (j, tree, [])
    | some (next, tree, records) =>
      let (last, tree, later) := next.advance tree fuel
      (last, tree, records ++ later)

/-- The pace of a worker that goes on until it waits, is held up or is gone. -/
def settlingPace (j : Journal) : Nat := j.worker.stepsLeft

/-- Let the worker go on at that pace. -/
def settle (j : Journal) (tree : FileTree) : Journal × FileTree × List LogRecord :=
  j.advance tree j.settlingPace

/-! ### Requests -/

/-- Hand over a calculation made at a given time.  The pace says how many actions the worker gets to
before the next request, and unless it is given the worker settles. -/
def notify (j : Journal) (tree : FileTree) (now : List Char) (n : Notification)
    (pace : Journal → Nat := settlingPace) : Journal × FileTree × List LogRecord :=
  if j.worker.closed then
    (j, tree,
      [historyRecord .warning
        ("History logger is closed, dropping ".toList ++ n.expression)])
  else
    let entry : HistoryEntry := ⟨n.expression, n.value, now⟩
    let handed : Journal := { j with worker := j.worker.notify entry }
    handed.advance tree (pace handed)

/-- Whether everything handed over has been dealt with. -/
def isFlushed (j : Journal) : Bool := j.worker.isFlushed

/-- Close the journal: the worker is asked to stop, and then the file is closed.  A worker that
is held up has not stopped when the given time is over. -/
def close (j : Journal) (tree : FileTree) (timeout : List Char) :
    Journal × FileTree × List LogRecord :=
  if j.worker.closed then (j, tree, [])
  else
    let (j, tree, records) := { j with worker := j.worker.requestStop }.settle tree
    let late : List LogRecord :=
      if j.worker.isGone then []
      else
        [historyRecord .warning
          ("History worker did not stop within ".toList ++ timeout ++ ['s'])]
    ({ j with worker := j.worker.closeFile }, tree, records ++ late)

/-- Close the file under the journal. -/
def breakFile (j : Journal) : Journal := { j with worker := j.worker.closeFile }

/-- Note that the file at the path was taken away. -/
def detach (j : Journal) : Journal := { j with attached := false }

/-- Hold the worker up before its next write. -/
def holdUp (j : Journal) : Journal := { j with heldUp := true }

/-- Let the worker go on. -/
def release (j : Journal) (tree : FileTree) : Journal × FileTree × List LogRecord :=
  { j with heldUp := false }.settle tree

/-- The entries of the journal's file. -/
def recollect (j : Journal) (tree : FileTree) : Recollection :=
  match tree.read? j.place with
  | none => {}
  | some content => Recollection.ofContent j.format content

/-! ### Listening to a session -/

/-- The journal as a listener, which never fails.  The clock tells the time of each notification,
and the pace how far the worker gets before the next one.  The state includes the files, and counts
the notifications. -/
def sink (clock : Nat → List Char) (pace : Nat → Journal → Nat := fun _ => settlingPace) :
    Sink (Journal × FileTree × Nat) where
  notify := fun (j, tree, told) n =>
    let (j, tree, records) := j.notify tree (clock told) n (pace told)
    { state := (j, tree, told + 1), records }

end Journal

end DeskCalculator
