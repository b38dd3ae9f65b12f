import DeskCalculator.CommandLine.Run
import DeskCalculator.Proofs.Parser.Failures
import Mathlib

/-!
# Bad settings

A document either gives settings or is refused with an explanation, whatever it holds, except for
one thing: a section of settings that is neither empty nor a mapping nor a list of pairs is looked at
as if it were one.  What has elements of the wrong length is refused all the same, but what has no
elements at all ends the program.

* `Datum.IsTable` — the values that settings can be taken from.
* `Datum.pairs?_isOk_iff` — they are the values that list pairs.
* `Settings.ofData_eq_badSection_iff` — a section that is none is what fails, and no other one does.
* `Settings.DataFailure` — the ways in which a document's data can fail.
* `settings_failures_contained` — the same of a whole run.
-/

namespace DeskCalculator

/-! ## Tables -/

namespace Datum

variable {data element : Datum} {elements : List Datum} {entries : List (Datum × Datum)}

/-- A value that is a pair: it has two parts, and the first one can be a key. -/
def IsPair (element : Datum) : Prop :=
  ∃ key value, element.parts? = some [key, value] ∧ key.isKey = true

/-- A value that settings can be taken from: it stands for nothing, is a mapping, or has only pairs
for elements. -/
def IsTable (data : Datum) : Prop :=
  data.isEmpty = true ∨ (∃ entries, data = .mapping entries) ∨
    ∃ elements, data.parts? = some elements ∧ ∀ element ∈ elements, element.IsPair

theorem pair?_isOk_iff : (∃ p, element.pair? = .ok p) ↔ element.IsPair := by
  unfold pair? IsPair
  constructor
  · rintro ⟨p, hp⟩
    split at hp
    · cases hp
    · rename_i key value hparts
      split at hp
      · rename_i hkey
        exact ⟨key, value, hparts, hkey⟩
      · cases hp
    · cases hp
  · rintro ⟨key, value, hparts, hkey⟩
    rw [hparts]
    exact ⟨(key, value), if_pos hkey⟩

/-- Elements are put together if all of them are pairs. -/
theorem putPairs_isOk_iff : (∃ pairs, putPairs entries elements = .ok pairs) ↔
    ∀ element ∈ elements, element.IsPair := by
  induction elements generalizing entries with
  | nil => simp [putPairs]
  | cons element elements ih =>
    rw [List.forall_mem_cons, ← pair?_isOk_iff]
    simp only [putPairs, bind_eq_ok]
    constructor
    · rintro ⟨pairs, ⟨key, value⟩, hpair, hrest⟩
      exact ⟨⟨_, hpair⟩, ih.1 ⟨pairs, hrest⟩⟩
    · rintro ⟨⟨⟨key, value⟩, hpair⟩, hrest⟩
      obtain ⟨pairs, hpairs⟩ := ih.2 hrest
      exact ⟨pairs, (key, value), hpair, hpairs⟩

/-- A value lists pairs if it is a mapping or has only pairs for elements. -/
theorem pairs?_isOk_iff : (∃ pairs, data.pairs? = .ok pairs) ↔
    (∃ entries, data = .mapping entries) ∨
      ∃ elements, data.parts? = some elements ∧ ∀ element ∈ elements, element.IsPair := by
  unfold pairs?
  split
  · simp
  · rename_i hmapping
    have hnone : ¬ ∃ entries, data = .mapping entries := fun ⟨entries, h⟩ => hmapping entries h
    rw [or_iff_right hnone]
    cases hparts : data.parts? with
    | none => simp
    | some elements => simpa using putPairs_isOk_iff

end Datum

/-! ## Documents -/

/-- The section of the settings in a document, if it has one. -/
def Datum.section? : Datum → Option Datum
  | .mapping entries => Datum.lookup? entries Settings.sectionKey
  | _ => none

namespace Settings

variable {d : Datum} {e : SettingsFailure} {entries : List (Datum × Datum)}

/-- The data of the settings lists pairs, unless there is a section that is no table. -/
theorem sectionOf_isOk_iff : (∃ pairs, (sectionOf entries).pairs? = .ok pairs) ↔
    ∀ data, (Datum.mapping entries).section? = some data → data.IsTable := by
  have hlookup : (Datum.mapping entries).section? = Datum.lookup? entries sectionKey := rfl
  rw [hlookup]
  unfold sectionOf
  cases Datum.lookup? entries sectionKey with
  | none => simp [Datum.pairs?]
  | some data =>
    simp only [Option.some.injEq, forall_eq', Datum.IsTable]
    split
    · rename_i hempty
      simp [hempty, Datum.pairs?]
    · rename_i hempty
      rw [Datum.pairs?_isOk_iff, or_iff_right hempty]

/-- The ways in which the data of a document can fail. -/
inductive DataFailure : SettingsFailure → Prop
  /-- The document is no mapping. -/
  | notAMapping : DataFailure .notAMapping
  /-- The section is no table. -/
  | badSection (e : Datum.PairFailure) : DataFailure (.badSection e)
  /-- The values are not those of settings. -/
  | invalid (r : Rejection) : DataFailure (.invalid r)

theorem dataFailure_of_ofData (h : ofData d = .error e) : DataFailure e := by
  cases d with
  | null => cases h
  | mapping entries =>
    simp only [ofData, ofMapping] at h
    split at h
    · cases h
      exact .badSection _
    · split at h
      · cases h
      · cases h
        exact .invalid _
  | bool | int | float | text | surrogates | bytes | date | list | pair | set =>
    cases h
    exact .notAMapping

/-- A section that is no table is what fails, and no other one does. -/
theorem ofData_eq_badSection_iff :
    (∃ e, ofData d = .error (.badSection e)) ↔
      ¬ ∀ data, d.section? = some data → data.IsTable := by
  cases d with
  | mapping entries =>
    rw [← sectionOf_isOk_iff]
    simp only [ofData, ofMapping]
    cases (sectionOf entries).pairs? with
    | error e => simp
    | ok pairs =>
      dsimp only
      cases validate pairs <;> simp
  | null | bool | int | float | text | surrogates | bytes | date | list | pair | set =>
    simp [ofData, Datum.section?]

/-! ## Layers -/

/-- What is laid over settings is refused with an explanation or makes settings. -/
theorem override_cases (s : Settings) (changes : List (Datum × Datum)) :
    (∃ s', s.override changes = .ok s') ∨ ∃ r, s.override changes = .error (.invalid r) := by
  unfold override
  dsimp only
  split
  · exact .inl ⟨_, rfl⟩
  · exact .inr ⟨_, rfl⟩

end Settings

/-! ## Runs -/

/-- A run whose arguments are read and name a document, which is there and holds given data. -/
structure Surroundings.ReadsDocument (w : Surroundings) (a : Arguments) (d : Datum) : Prop where
  arguments : Arguments.read w.arguments = .ok a
  document : ∃ path place text, a.config? = some path ∧ w.tree.placeOf path = .ok place ∧
    w.tree.read? place = some text ∧ Yaml.load (unifyLineEnds text) = .ok d

/-- The exit code of a run that comes to an end of its own. -/
def Outcome.exitCode? : Outcome → Option Nat
  | .arguments e => some e.code
  | .refused _ => some refusedCode
  | .finished code => some code
  | .unsettled _ | .unopened _ | .failed _ => none

section Run

variable {w : Surroundings} {a : Arguments} {d : Datum} {e : SettingsFailure} {s : Settings}

theorem Surroundings.ReadsDocument.ofFile_eq (h : w.ReadsDocument a d) :
    ∃ path, a.config? = some path ∧ Settings.ofFile w.tree path = Settings.ofData d := by
  obtain ⟨path, place, text, hconfig, hplace, htext, hload⟩ := h.document
  exact ⟨path, hconfig, by simp only [Settings.ofFile, hplace, htext, Settings.ofYaml, hload]⟩

/-- A document that gives no settings is what a run fails with. -/
theorem Surroundings.ReadsDocument.settings_of_error (h : w.ReadsDocument a d)
    (hd : Settings.ofData d = .error e) : a.settings w.tree w.environment = .error e := by
  obtain ⟨path, hconfig, hfile⟩ := h.ofFile_eq
  unfold Arguments.settings Settings.load
  rw [hconfig]
  dsimp only
  rw [hfile, hd]
  rfl

/-- What the environment and the command line say makes settings or is refused. -/
theorem Surroundings.ReadsDocument.settings_of_ok (h : w.ReadsDocument a d)
    (hd : Settings.ofData d = .ok s) :
    (∃ s', a.settings w.tree w.environment = .ok s') ∨
      ∃ r, a.settings w.tree w.environment = .error (.invalid r) := by
  obtain ⟨path, hconfig, hfile⟩ := h.ofFile_eq
  unfold Arguments.settings Settings.load
  rw [hconfig]
  dsimp only
  rw [hfile, hd, ok_bind]
  split
  · exact Settings.override_cases s a.changes
  · rcases s.override_cases (Settings.environmentChanges w.environment) with ⟨s', hs'⟩ | ⟨r, hr⟩
    · rw [hs']
      exact Settings.override_cases s' a.changes
    · rw [hr]
      exact .inr ⟨r, rfl⟩

/-- A run begins with its settings, if it has some. -/
theorem run_of_settings (harguments : Arguments.read w.arguments = .ok a)
    (hsettings : a.settings w.tree w.environment = .ok s) :
    run w = runWith w a.expression? s := by
  simp only [run, harguments, hsettings]

/-- A run without settings reports why, if the document is to blame. -/
theorem run_of_isRecoverable (harguments : Arguments.read w.arguments = .ok a)
    (hsettings : a.settings w.tree w.environment = .error e) (he : e.isRecoverable = true) :
    run w = { outcome := .refused e, complaints := refusalLine e, tree := w.tree } := by
  simp only [run, harguments, hsettings, he, if_true]

/-- Of the ways in which the data of a document can fail a single one ends a run. -/
theorem Settings.DataFailure.isRecoverable_or (h : Settings.DataFailure e) :
    e.isRecoverable = true ∨ e = .badSection .wrongKind := by
  cases h with
  | badSection e =>
    cases e with
    | wrongLength => exact .inl rfl
    | wrongKind => exact .inr rfl
  | notAMapping | invalid r => exact .inl rfl

end Run

/-- **Bad settings are contained**, unless the section of the settings has no elements to look at.
Whatever a document holds, it gives settings, or is refused because it is no mapping or because of
its values, if and only if its section, should it have one, is a table.  A run that reads the
document goes on with the settings, or is refused with an explanation and exit code 2, or else fails
because of a section without elements, or with one among its elements that has none or cannot be
a key. -/
theorem settings_failures_contained (d : Datum) :
    ((∃ s, Settings.ofData d = .ok s) ∨ Settings.ofData d = .error .notAMapping ∨
        (∃ r, Settings.ofData d = .error (.invalid r)) ↔
      ∀ data, d.section? = some data → data.IsTable) ∧
    ∀ w a, w.ReadsDocument a d →
      (∃ s, a.settings w.tree w.environment = .ok s ∧ run w = runWith w a.expression? s) ∨
      (∃ e, a.settings w.tree w.environment = .error e ∧
        run w = { outcome := .refused e, complaints := refusalLine e, tree := w.tree } ∧
        (run w).outcome.exitCode? = some 2) ∨
      Settings.ofData d = .error (.badSection .wrongKind) ∧
        run w = { outcome := .unsettled (.badSection .wrongKind), tree := w.tree } := by
  constructor
  · rw [← not_iff_not, ← Settings.ofData_eq_badSection_iff]
    cases hd : Settings.ofData d with
    | ok s => simp
    | error e => cases Settings.dataFailure_of_ofData hd <;> simp
  · intro w a h
    have hrefused : ∀ e, a.settings w.tree w.environment = .error e → e.isRecoverable = true →
        ∃ e, a.settings w.tree w.environment = .error e ∧
          run w = { outcome := .refused e, complaints := refusalLine e, tree := w.tree } ∧
          (run w).outcome.exitCode? = some 2 := by
      intro e hsettings he
      have hrun := run_of_isRecoverable h.arguments hsettings he
      exact ⟨e, hsettings, hrun, by rw [hrun]; rfl⟩
    cases hd : Settings.ofData d with
    | ok s =>
      rcases h.settings_of_ok hd with ⟨s', hs'⟩ | ⟨r, hr⟩
      · exact .inl ⟨s', hs', run_of_settings h.arguments hs'⟩
      · exact .inr (.inl (hrefused _ hr rfl))
    | error e =>
      have hsettings := h.settings_of_error hd
      rcases (Settings.dataFailure_of_ofData hd).isRecoverable_or with he | rfl
      · exact .inr (.inl (hrefused e hsettings he))
      · refine .inr (.inr ⟨rfl, ?_⟩)
        simp only [run, h.arguments, hsettings]
        rfl

/-- A run with a document of a given text and nothing else. -/
def runOfDocument (text : String) : Surroundings :=
  { arguments := ["--config".toList, "desk".toList]
    tree := { files := [(["desk".toList], text.toList)] } }

theorem readsDocument_runOfDocument {text : String} {d : Datum}
    (h : Yaml.load (unifyLineEnds text.toList) = .ok d) :
    (runOfDocument text).ReadsDocument { config? := some (.ofText "desk".toList) } d :=
  ⟨rfl, _, ["desk".toList], text.toList, rfl, rfl, rfl, h⟩

/-- The theorem at a section that lists a word of two characters, which is a pair of them: it is a
table, but it has no setting. -/
theorem settings_failures_contained_pair :
    let w := runOfDocument "calculator: [ab]"
    let d : Datum := .mapping [(.ofString "calculator", .list [.ofString "ab"])]
    w.ReadsDocument { config? := some (.ofText "desk".toList) } d ∧
      (∃ r, Settings.ofData d = .error (.invalid r)) ∧ (run w).outcome.exitCode? = some 2 := by
  intro w d
  have hd : Settings.ofData d =
      .error (.invalid (.issues [⟨some (.ofString "a"), .unknownKey⟩])) := rfl
  have hreads : w.ReadsDocument { config? := some (.ofText "desk".toList) } d :=
    readsDocument_runOfDocument (by cbv)
  refine ⟨hreads, ⟨_, hd⟩, ?_⟩
  rcases (settings_failures_contained d).2 w _ hreads with ⟨s, hs, -⟩ | ⟨e, -, -, hcode⟩ | ⟨hd', -⟩
  · rw [hreads.settings_of_error hd] at hs
    cases hs
  · exact hcode
  · cases hd.symm.trans hd'

/-- A number in the place of the section is no mapping, but it is not refused: it ends the run. -/
theorem number_for_section_ends_run :
    let w := runOfDocument "calculator: 5\n"
    Settings.ofYaml "calculator: 5\n".toList = .error (.badSection .wrongKind) ∧
      (run w).outcome = .unsettled (.badSection .wrongKind) ∧
      (run w).outcome.exitCode? = none := by
  intro w
  have hload : Yaml.load "calculator: 5\n".toList =
      .ok (.mapping [(.ofString "calculator", .int 5)]) := by cbv
  have hd : Settings.ofData (.mapping [(.ofString "calculator", .int 5)]) =
      .error (.badSection .wrongKind) := rfl
  have hreads : w.ReadsDocument { config? := some (.ofText "desk".toList) }
      (.mapping [(.ofString "calculator", .int 5)]) := readsDocument_runOfDocument hload
  have hrun : run w = { outcome := .unsettled (.badSection .wrongKind), tree := w.tree } := by
    simp only [run, hreads.arguments, hreads.settings_of_error hd]
    rfl
  refine ⟨?_, ?_, ?_⟩
  · rw [Settings.ofYaml, hload]
    exact hd
  · rw [hrun]
  · rw [hrun]
    rfl

end DeskCalculator
