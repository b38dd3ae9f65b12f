import DeskCalculator.FileTree
import DeskCalculator.Settings.Validate
import DeskCalculator.Yaml.Reader

/-!
# Where settings come from

Settings are built in layers: defaults, a document, the environment, and what the command line
says.  A higher layer replaces only what it mentions.

* `Settings.ofData` — the settings that a document's data gives, flat or in a section.
* `Settings.ofYaml` — the settings that a document's text gives.
* `Settings.override` — settings with some values replaced.
* `Settings.load` — document and environment together.
-/

namespace DeskCalculator

/-! ## Failures -/

/-- Why no settings come about. -/
inductive SettingsFailure where
  /-- The document is malformed. -/
  | malformed
  /-- A scalar of the document does not have the value that it promises. -/
  | badScalar (e : Yaml.ScalarFailure)
  /-- The document holds something else than a mapping. -/
  | notAMapping
  /-- The section is no list of pairs. -/
  | badSection (e : Datum.PairFailure)
  /-- The values are not those of settings. -/
  | invalid (r : Rejection)
  /-- The document cannot be opened. -/
  | file (e : FileFailure)

namespace SettingsFailure

/-- The number of issues in words. -/
def countIssues : List Issue → List Char
  | [_] => "1 validation error".toList
  | issues => natText issues.length ++ " validation errors".toList

/-- The words for a failure. -/
def message : SettingsFailure → List Char
  | .malformed => "YAML parse error".toList
  | .badScalar e => e.message
  | .notAMapping => "Configuration must be a mapping".toList
  | .badSection .wrongLength => "An element of the section is no pair".toList
  | .badSection .wrongKind => "The section has no elements".toList
  | .invalid (.issues issues) => countIssues issues ++ " for CalculatorConfig".toList
  | .invalid (.unwritable message) => message.objection
  | .file _ => "The document cannot be opened".toList

/-- Whether the failure is the document's, so that it can be reported to its author. -/
def isRecoverable : SettingsFailure → Bool
  | .badSection .wrongKind | .file _ => false
  | .badScalar e => e.isReported
  | _ => true

end SettingsFailure

namespace Settings

/-! ## A document -/

/-- The key under which the settings may stand in a section of their own. -/
def sectionKey : Datum := .ofString "calculator"

/-- The data that holds the settings: the section if there is one, else everything.  What stands
for nothing holds nothing. -/
def sectionOf (entries : List (Datum × Datum)) : Datum :=
  match Datum.lookup? entries sectionKey with
  | some data => if data.isEmpty then .mapping [] else data
  | none => .mapping entries

/-- The settings that a mapping gives. -/
def ofMapping (entries : List (Datum × Datum)) : Except SettingsFailure Settings :=
  match (sectionOf entries).pairs? with
  | .error e => .error (.badSection e)
  | .ok pairs =>
    match validate pairs with
    | .ok s => .ok s
    | .error r => .error (.invalid r)

/-- The settings that a document's data gives.  An empty document gives the defaults. -/
def ofData : Datum → Except SettingsFailure Settings
  | .null => .ok {}
  | .mapping entries => ofMapping entries
  | _ => .error .notAMapping

/-- The settings that a document's text gives. -/
def ofYaml (text : List Char) : Except SettingsFailure Settings :=
  match Yaml.load text with
  | .error .malformed => .error .malformed
  | .error (.badScalar e) => .error (.badScalar e)
  | .ok data => ofData data

/-! ## Overriding -/

/-- Settings with some values replaced.  A null value replaces nothing. -/
def override (s : Settings) (changes : List (Datum × Datum)) : Except SettingsFailure Settings :=
  let named := changes.filter fun e =>
    match e.2 with
    | .null => false
    | _ => true
  match validate (named.foldl (fun entries e => Datum.put entries e.1 e.2) s.entries) with
  | .ok s => .ok s
  | .error r => .error (.invalid r)

/-- The settings that a variable of the environment replaces. -/
def environmentKeys : List (String × SettingKey) :=
  [("CALCENGINE_HISTORY_FILE", .historyFile), ("CALCENGINE_LOG_LEVEL", .logLevel),
    ("CALCENGINE_PROMPT", .prompt)]

/-- The replacements that an environment asks for.  An empty variable asks for none. -/
def environmentChanges (environment : List (List Char × List Char)) : List (Datum × Datum) :=
  environmentKeys.filterMap fun (name, key) =>
    match environment.find? (·.1 == name.toList) with
    | some (_, value) => if value.isEmpty then none else some (key.datum, .text value)
    | none => none

/-! ## Loading -/

/-- The settings that a file's document gives; without the file, the defaults. -/
def ofFile (tree : FileTree) (path : FilePath) : Except SettingsFailure Settings :=
  match tree.placeOf path with
  | .error .tooLong => .error (.file .tooLong)
  | .error _ => .ok {}
  | .ok place =>
    match tree.read? place with
    | some text => ofYaml (unifyLineEnds text)
    | none => if tree.isDirectory place then .error (.file .isADirectory) else .ok {}

/-- The settings that a file, if any, and the environment give. -/
def load (tree : FileTree) (path? : Option FilePath) (environment : List (List Char × List Char)) :
    Except SettingsFailure Settings := do
  let s ← match path? with
    | some path => ofFile tree path
    | none => .ok {}
  let changes := environmentChanges environment
  if changes.isEmpty then .ok s else s.override changes

end Settings

end DeskCalculator
