import DeskCalculator.Settings.Basic
import DeskCalculator.Text.Blank
import DeskCalculator.Text.Utf8

/-!
# Validation of settings

Plain data is turned into settings, generously: a truth value may be written as a number or a
word, a whole number as a text.  All that is wrong is reported at once: first the settings in
their order, then the keys that are none, in the order of the data.

* `Problem`, `Issue` and `Rejection` — what is wrong, where, and what is said of it.
* `readBool`, `readInt`, … — the rules for one kind of value each.
* `validate` — the settings that pairs of keys and values give.
-/

namespace DeskCalculator

/-! ## Problems -/

/-- What is wrong with a value or a key. -/
inductive Problem where
  | boolType
  | boolParsing
  | intType
  | intParsing
  | intTooLarge
  | intFromFloat
  | notFinite
  | tooSmall
  | wrongChoice
  | pathType
  | textType
  /-- A text with a surrogate in it, or bytes that encode no text. -/
  | notUnicode
  | unknownLogLevel (given : CodePoints)
  | unknownKey
  | invalidKey
deriving Repr, DecidableEq

/-- The words for a level that there is not. -/
def unknownLogLevelMessage (given : CodePoints) : CodePoints :=
  codePoints "Unknown log level: ".toList ++ given

/-- The words for a problem, if they cannot be encoded. -/
def Problem.unwritable? : Problem → Option CodePoints
  | .unknownLogLevel given =>
    let message := unknownLogLevelMessage given
    if message.any isSurrogate then some message else none
  | _ => none

/-- A problem and the key it is found at, unless it is one of all the data. -/
structure Issue where
  key? : Option Datum
  problem : Problem

/-- Why data gives no settings. -/
inductive Rejection where
  /-- All that is wrong. -/
  | issues (issues : List Issue)
  /-- The words for what is wrong cannot be encoded, so that nothing else is said. -/
  | unwritable (message : CodePoints)

/-! ## The rules for values -/

/-- The characters of a text, or of bytes that encode some; `none` if a value is of another kind.
The first argument is what is wrong with bytes that encode none. -/
def characters? (undecoded : Problem) : Datum → Option (Except Problem (List Char))
  | .text s => some (.ok s)
  | .surrogates _ => some (.error .notUnicode)
  | .bytes octets => some ((decodeUtf8? octets).elim (.error undecoded) .ok)
  | _ => none

/-- The truth value that a word stands for. -/
def boolOfWord? (s : List Char) : Option Bool :=
  let word := String.ofList (lowered s)
  if ["1", "t", "y", "yes", "on", "true"].contains word then some true
  else if ["0", "f", "n", "no", "off", "false"].contains word then some false
  else none

/-- The truth value that a whole number stands for. -/
def boolOfInt? (n : Int) : Option Bool :=
  if n = 0 then some false else if n = 1 then some true else none

/-- The whole number that a double is, if it is less than `2 ^ 63` in size. -/
def smallWhole? (v : Float) : Option Int :=
  (wholeNumber? v).filter fun n => n.natAbs < Nat.pow 2 63

/-- Whether a whole number takes no more than sixty-four bits. -/
def isSmall (n : Int) : Bool := -(Nat.pow 2 63 : Int) ≤ n && n < (Nat.pow 2 63 : Int)

/-- Read a truth value. -/
def readBool : Datum → Except Problem Bool
  | .bool b => .ok b
  | .int n =>
    if isSmall n then (boolOfInt? n).elim (.error .boolParsing) .ok else .error .boolType
  | .float v =>
    match smallWhole? v with
    | some n => (boolOfInt? n).elim (.error .boolParsing) .ok
    | none => .error .boolType
  | d =>
    match characters? .boolParsing d with
    | some s => do (boolOfWord? (← s)).elim (.error .boolParsing) .ok
    | none => .error .boolType

/-! ### Whole numbers as texts -/

/-- Read on in the zeros in front of a number, among which underscores may stand.  The last one
stays if nothing or a point follows. -/
def dropZeros? (previous : Char) : List Char → Option (List Char)
  | [] => some [previous]
  | c :: rest =>
    if c = '0' || c = '_' then dropZeros? c rest
    else if c = '-' || isDigit c then some (c :: rest)
    else if c = '.' then some (previous :: c :: rest)
    else none

/-- A number without the zeros in front of it, if it is one by its first character. -/
def withoutZeros? : List Char → Option (List Char)
  | [] => none
  | '0' :: rest => dropZeros? '0' rest
  | c :: rest => if c = '-' || isDigit c then some (c :: rest) else none

/-- Drop a point with zeros after it, of which there is one at least. -/
def dropZeroFraction (s : List Char) : List Char :=
  let before := s.takeWhile (· != '.')
  match s.dropWhile (· != '.') with
  | '.' :: '0' :: zeros => if zeros.all (· == '0') then before else s
  | _ => s

/-- Whether underscores stand one by one and not at either end; `between` says whether one may
come next. -/
def areSeparators (between : Bool) : List Char → Bool
  | [] => true
  | '_' :: rest => between && !rest.isEmpty && areSeparators false rest
  | _ :: rest => areSeparators true rest

/-- Drop the underscores between digits. -/
def dropSeparators (s : List Char) : List Char :=
  if areSeparators false s then s.filter (· != '_') else s

/-- A number without what does not count: zeros in front, zeros after a point, separators. -/
def bareNumber? (s : List Char) : Option (List Char) :=
  (withoutZeros? s).map fun s => dropSeparators (dropZeroFraction s)

/-- A text that writes a whole number, brought into its plainest form. -/
def plainest? (s : List Char) : Option (List Char) :=
  match trimWhiteSpace s with
  | '+' :: '-' :: _ => none
  | '+' :: rest => bareNumber? rest
  | '-' :: rest => (bareNumber? rest).map ('-' :: ·)
  | rest => bareNumber? rest

/-- The number that a text writes which has no more to it than a minus and digits. -/
def plainInt (s : List Char) : Except Problem Int :=
  let (negative, digits) := match s with
    | '-' :: rest => (true, rest)
    | _ => (false, s)
  match digits with
  | ['0'] => .ok 0
  | '0' :: _ => .error .intParsing
  | _ =>
    let run := digits.takeWhile isDigit
    if run.isEmpty then .error .intParsing
    else if maxIntegerDigits < run.length then .error .intTooLarge
    else if run.length < digits.length then .error .intParsing
    else .ok (if negative then -(digitsValue run : Int) else digitsValue run)

/-- The whole number that a text writes, as it stands or in its plainest form.  Only of a text as
it stands it is said that there are too many digits. -/
def intOfText (s : List Char) : Except Problem Int :=
  match plainInt s with
  | .error .intParsing =>
    ((plainest? s).bind fun s => (plainInt s).toOption).elim (.error .intParsing) .ok
  | found => found

example : (intOfText " +0_0_1_0.00 ".toList).toOption = some 10 := by decide
example : (intOfText "-0".toList).toOption = some 0 := by decide
example : (intOfText "1__0".toList).toOption = none := by decide

/-! ### All kinds of values -/

/-- Read a whole number. -/
def readInt : Datum → Except Problem Int
  | .int n => .ok n
  | .bool b => .ok (if b then 1 else 0)
  | .float v =>
    if !v.isFinite then .error .notFinite
    else if (wholeNumber? v).isNone then .error .intFromFloat
    else (smallWhole? v).elim (.error .intTooLarge) .ok
  | d =>
    match characters? .intParsing d with
    | some s => do intOfText (← s)
    | none => .error .intType

/-- Read a whole number that has a lower bound. -/
def readIntFrom (least : Int) (d : Datum) : Except Problem Int := do
  let n ← readInt d
  if n < least then .error .tooSmall else .ok n

/-- Read the name of a history format. -/
def readFormat : Datum → Except Problem HistoryFormat
  | .text s => (HistoryFormat.ofName? s).elim (.error .wrongChoice) .ok
  | .surrogates _ => .error .notUnicode
  | _ => .error .wrongChoice

/-- Read a path. -/
def readPath : Datum → Except Problem FilePath
  | .text s => .ok (FilePath.ofText s)
  | .surrogates s => .ok (FilePath.ofCodePoints s)
  | _ => .error .pathType

/-- Read a text, which may have surrogates. -/
def readText : Datum → Except Problem CodePoints
  | .surrogates s => .ok s
  | d =>
    match characters? .notUnicode d with
    | some s => do return codePoints (← s)
    | none => .error .textType

/-- Read the name of a threshold, in any mixture of cases. -/
def readThreshold (d : Datum) : Except Problem LogThreshold := do
  let s ← readText d
  (s.chars?.bind LogThreshold.ofName?).elim (.error (.unknownLogLevel s)) .ok

/-- Change one setting to what a value says. -/
def Settings.set (s : Settings) (key : SettingKey) (d : Datum) : Except Problem Settings :=
  match key with
  | .historyEnabled => (readBool d).map fun b => { s with historyEnabled := b }
  | .historyFile => (readPath d).map fun p => { s with historyFile := p }
  | .historyFormat => (readFormat d).map fun f => { s with historyFormat := f }
  | .historyTruncate => (readBool d).map fun b => { s with historyTruncate := b }
  | .prompt => (readText d).map fun t => { s with prompt := t }
  | .stackCapacity => (readIntFrom 0 d).map fun n => { s with stackCapacity := n }
  | .stackGrowth => (readIntFrom 1 d).map fun n => { s with stackGrowth := n }
  | .logLevel => (readThreshold d).map fun t => { s with logLevel := t }

/-! ## All values -/

/-- Set what the data has a value for, one setting after another, and collect what is wrong. -/
def setAll (data : List (Datum × Datum)) (s : Settings) :
    List SettingKey → Settings × List Issue
  | [] => (s, [])
  | key :: rest =>
    match Datum.lookup? data key.datum with
    | none => setAll data s rest
    | some d =>
      match s.set key d with
      | .ok s => setAll data s rest
      | .error problem =>
        let (s, issues) := setAll data s rest
        (s, ⟨some key.datum, problem⟩ :: issues)

/-- The keys that are no settings. -/
def strayKeys (data : List (Datum × Datum)) : List Issue :=
  (data.filter fun e => !SettingKey.isName e.1).map fun e =>
    match e.1 with
    | .text _ => ⟨some e.1, .unknownKey⟩
    | _ => ⟨some e.1, .invalidKey⟩

/-- Whether the data has a key with a surrogate in it. -/
def hasSurrogateKey (data : List (Datum × Datum)) : Bool :=
  data.any fun e =>
    match e.1 with
    | .surrogates _ => true
    | _ => false

/-- The settings that pairs of keys and values give.  What they do not mention has its default.
Data with a key that is no text of characters has that one problem only. -/
def validate (data : List (Datum × Datum)) : Except Rejection Settings :=
  let (settings, issues) := setAll data {} SettingKey.all
  match issues.findSome? (·.problem.unwritable?) with
  | some message => .error (.unwritable message)
  | none =>
    if hasSurrogateKey data then .error (.issues [⟨none, .notUnicode⟩])
    else
      let issues := issues ++ strayKeys data
      if issues.isEmpty then .ok settings else .error (.issues issues)

end DeskCalculator
