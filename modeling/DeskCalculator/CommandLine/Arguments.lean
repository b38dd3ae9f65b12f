import DeskCalculator.FilePath
import DeskCalculator.Text.DecimalDigit

/-!
# Arguments of the command line

An argument is a switch, the value of a switch, or neither, and what is neither is refused.

* `Switch` — the switches, each with a long name and some with a letter.
* `Word.ofArgument` — what an argument is by itself.  A long name may be cut short as long as it
  stays the beginning of one name only.
* `Arguments.read` — what all arguments say together, or how they end the program.
-/

namespace DeskCalculator

/-! ## Switches -/

/-- What can be switched on the command line. -/
inductive Switch where
  | help
  | config
  | historyFile
  | noHistory
  | logLevel
  | expression
deriving Repr, DecidableEq

namespace Switch

/-- All switches. -/
def all : List Switch := [.help, .config, .historyFile, .noHistory, .logLevel, .expression]

/-- The long name. -/
def longName : Switch → String
  | .help => "--help"
  | .config => "--config"
  | .historyFile => "--history-file"
  | .noHistory => "--no-history"
  | .logLevel => "--log-level"
  | .expression => "--expression"

/-- The letter, if there is one. -/
def letter? : Switch → Option Char
  | .help => some 'h'
  | .expression => some 'e'
  | _ => none

/-- Whether the switch has a value. -/
def takesValue : Switch → Bool
  | .help | .noHistory => false
  | _ => true

/-- The switch with a letter. -/
def ofLetter? (c : Char) : Option Switch := all.find? fun s => s.letter? == some c

/-- The switches whose long names begin with a text. -/
def beginningWith (s : List Char) : List Switch :=
  all.filter fun switch => s.isPrefixOf switch.longName.toList

end Switch

/-! ## Single arguments -/

/-- What is attached to a switch within its argument. -/
inductive Attachment where
  | nothing
  /-- What follows a letter, apart from one equals sign in front. -/
  | joined (s : List Char)
  /-- What follows a long name and an equals sign. -/
  | equated (s : List Char)
deriving Repr, DecidableEq

/-- What an argument is by itself. -/
inductive Word where
  /-- No switch, so perhaps the value of one. -/
  | plain (s : List Char)
  | switch (s : Switch) (attached : Attachment)
  /-- It looks like a switch and is none. -/
  | stranger
  /-- The beginning of several names. -/
  | ambiguous
  /-- Two dashes: no switch comes after them. -/
  | divider
deriving Repr, DecidableEq

/-- Whether digits follow each other up to the end of a text or its final line feed. -/
def areDigits (s : List Char) : Bool :=
  let digits := s.takeWhile isDecimalDigit
  let rest := s.dropWhile isDecimalDigit
  !digits.isEmpty && (rest.isEmpty || rest == ['\n'])

/-- Whether an argument is a negative number, which is no switch. -/
def isNegativeNumber : List Char → Bool
  | '-' :: s =>
    areDigits s ||
      match s.dropWhile isDecimalDigit with
      | '.' :: fraction => areDigits fraction
      | _ => false
  | _ => false

/-- Cut a text at its first equals sign. -/
def cutAtEquals (s : List Char) : List Char × Attachment :=
  match s.dropWhile (· != '=') with
  | [] => (s, .nothing)
  | _ :: value => (s.takeWhile (· != '='), .equated value)

namespace Word

/-- An argument that begins like a switch and is not one: a number and what has a space in it may
still be values. -/
def ofNoSwitch (s : List Char) : Word :=
  if isNegativeNumber s || s.contains ' ' then .plain s else .stranger

/-- An argument that begins with two dashes. -/
def ofLong (s : List Char) : Word :=
  let (name, attached) := cutAtEquals s
  match Switch.beginningWith name with
  | [] => ofNoSwitch s
  | [found] => .switch found attached
  | _ => .ambiguous

/-- What is attached to a letter. -/
def attachedToLetter : List Char → Attachment
  | [] => .nothing
  | '=' :: value => .joined value
  | value => .joined value

/-- An argument that begins with one dash before another character. -/
def ofShort (letter : Char) (rest : List Char) : Word :=
  match Switch.ofLetter? letter with
  | some found => .switch found (attachedToLetter rest)
  | none => ofNoSwitch ('-' :: letter :: rest)

/-- What an argument is by itself. -/
def ofArgument (s : List Char) : Word :=
  match s with
  | ['-', '-'] => .divider
  | '-' :: '-' :: _ => ofLong s
  | '-' :: letter :: rest => ofShort letter rest
  | _ => .plain s

/-- What each argument is.  After a divider all are plain. -/
def ofArguments : List (List Char) → List Word
  | [] => []
  | s :: rest =>
    match ofArgument s with
    | .divider => .divider :: rest.map .plain
    | word => word :: ofArguments rest

end Word

/-! ## All arguments -/

/-- The value of a switch. -/
inductive SwitchValue where
  | text (s : List Char)
  /-- Two dashes take the place of a value and are none. -/
  | nothing
deriving Repr, DecidableEq

/-- The value that an argument gives to a switch. -/
def SwitchValue.ofArgument (s : List Char) : SwitchValue :=
  if s = ['-', '-'] then .nothing else .text s

/-- The text of a value, if it is one. -/
def SwitchValue.text? : SwitchValue → Option (List Char)
  | .text s => some s
  | .nothing => none

/-- What the arguments say. -/
structure Arguments where
  config? : Option FilePath := none
  historyFile? : Option SwitchValue := none
  noHistory : Bool := false
  logLevel? : Option SwitchValue := none
  expression? : Option (List Char) := none
deriving Repr, DecidableEq

/-- How arguments end the program. -/
inductive ArgumentsEnding where
  /-- Help is asked for. -/
  | help
  /-- The arguments are refused. -/
  | refused
deriving Repr, DecidableEq

/-- The exit code that goes with an ending. -/
def ArgumentsEnding.code : ArgumentsEnding → Nat
  | .help => 0
  | .refused => 2

namespace Arguments

/-- Take in the value of a switch.  The last one counts.  Where there is none, no document is
read, and the expression is empty. -/
def set (a : Arguments) (s : Switch) (value : SwitchValue) : Arguments :=
  match s with
  | .config => { a with config? := value.text?.map FilePath.ofText }
  | .historyFile => { a with historyFile? := some value }
  | .logLevel => { a with logLevel? := some value }
  | .expression => { a with expression? := some (value.text?.getD []) }
  | .help | .noHistory => a

/-- How the letters end the program that follow the letter of help: they must be letters of
switches, of which the last one may have its value attached or in the next argument. -/
def endingOfLetters (hasValue : Bool) : List Char → ArgumentsEnding
  | [] => .help
  | c :: rest =>
    match Switch.ofLetter? c with
    | none => .refused
    | some found =>
      if found.takesValue then
        if rest.isEmpty && !hasValue then .refused else .help
      else endingOfLetters hasValue rest

/-- The plain word in front, if there is one. -/
def value? : List Word → Option (List Char)
  | .plain s :: _ => some s
  | _ => none

/-- Take in words one after another.  Words that belong to nothing are refused in the end only,
so that a later call for help still counts. -/
def readWords (a : Arguments) (strayed : Bool) : List Word → Except ArgumentsEnding Arguments
  | [] => if strayed then .error .refused else .ok a
  | .plain _ :: rest | .stranger :: rest | .ambiguous :: rest | .divider :: rest =>
    a.readWords true rest
  | .switch .help attached :: rest =>
    match attached with
    | .nothing => .error .help
    | .joined [] | .equated _ => .error .refused
    | .joined letters => .error (endingOfLetters (value? rest).isSome letters)
  | .switch .noHistory attached :: rest =>
    match attached with
    | .nothing => { a with noHistory := true }.readWords strayed rest
    | _ => .error .refused
  | .switch s (.joined value) :: rest | .switch s (.equated value) :: rest =>
    (a.set s (.ofArgument value)).readWords strayed rest
  | .switch s .nothing :: .plain value :: rest =>
    (a.set s (.ofArgument value)).readWords strayed rest
  | .switch _ .nothing :: _ => .error .refused

/-- What all arguments say.  An ambiguous one is refused before anything else counts. -/
def read (arguments : List (List Char)) : Except ArgumentsEnding Arguments :=
  let words := Word.ofArguments arguments
  if words.contains .ambiguous then .error .refused else readWords {} false words

end Arguments

end DeskCalculator
