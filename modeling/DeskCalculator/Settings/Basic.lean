import DeskCalculator.BoundedStack
import DeskCalculator.Datum
import DeskCalculator.FilePath
import DeskCalculator.History.Journal
import DeskCalculator.LogThreshold

/-!
# Settings

What can be set about a calculator: its history, its prompt, its stacks and its log.  `Settings`
holds the values, `SettingKey` the names, and `Settings.entries` lists a value for each name.
-/

namespace DeskCalculator

/-- The values of all settings. -/
structure Settings where
  historyEnabled : Bool := true
  historyFile : FilePath := FilePath.ofText "log.txt".toList
  historyFormat : HistoryFormat := .text
  historyTruncate : Bool := true
  prompt : CodePoints := codePoints "> ".toList
  stackCapacity : Int := ({} : StackLimits).capacity
  stackGrowth : Int := ({} : StackLimits).growth
  logLevel : LogThreshold := .warning
deriving Repr, DecidableEq

/-- The limits that the settings put on stacks. -/
def Settings.limits (s : Settings) : StackLimits := ⟨s.stackCapacity, s.stackGrowth⟩

/-! ## Names -/

/-- The settings by name, in the order in which they are looked at. -/
inductive SettingKey where
  | historyEnabled
  | historyFile
  | historyFormat
  | historyTruncate
  | prompt
  | stackCapacity
  | stackGrowth
  | logLevel
deriving Repr, DecidableEq

namespace SettingKey

/-- All names, in order. -/
def all : List SettingKey :=
  [.historyEnabled, .historyFile, .historyFormat, .historyTruncate, .prompt, .stackCapacity,
    .stackGrowth, .logLevel]

/-- The name as it is written. -/
def name : SettingKey → String
  | .historyEnabled => "history_enabled"
  | .historyFile => "history_file"
  | .historyFormat => "history_format"
  | .historyTruncate => "history_truncate"
  | .prompt => "prompt"
  | .stackCapacity => "stack_capacity"
  | .stackGrowth => "stack_growth"
  | .logLevel => "log_level"

/-- The name as a key of a mapping. -/
def datum (k : SettingKey) : Datum := .ofString k.name

/-- Whether a key is the name of a setting. -/
def isName (key : Datum) : Bool := all.any fun k => k.datum.sameKey key

end SettingKey

/-- The value of a setting as plain data. -/
def Settings.value (s : Settings) : SettingKey → Datum
  | .historyEnabled => .bool s.historyEnabled
  | .historyFile => .ofCodePoints s.historyFile.text
  | .historyFormat => .ofString s.historyFormat.name
  | .historyTruncate => .bool s.historyTruncate
  | .prompt => .ofCodePoints s.prompt
  | .stackCapacity => .int s.stackCapacity
  | .stackGrowth => .int s.stackGrowth
  | .logLevel => .ofString s.logLevel.name

/-- All settings as pairs of a name and a value. -/
def Settings.entries (s : Settings) : List (Datum × Datum) :=
  SettingKey.all.map fun k => (k.datum, s.value k)

end DeskCalculator
