import DeskCalculator.Proofs.Settings.Containment
import DeskCalculator.Proofs.Settings.Fields
import Mathlib

/-!
# Layers of settings

Settings come in four layers: defaults, a document, the environment and the command line.  Each
layer writes its values over all those below it and has everything read again, but since the values
of accepted settings are read as they are, this comes to the same as to take each setting from the
highest layer that has a value for it.

* `Datum.update` and `supplied?` — replacing entries, and the value that changes have for a setting.
* `override_eq_ok_iff` — overriding, one setting at a time.
* `environmentValue?` and `IsDocument` — what the environment and a document supply.
* `settings_layered` — the layers together, and the laws of overriding.
-/

namespace DeskCalculator

/-! ## Replacing entries -/

/-- Whether a value replaces something: null does not. -/
def Datum.isGiven : Datum → Bool
  | .null => false
  | _ => true

/-- The changes that replace something. -/
def given (changes : List (Datum × Datum)) : List (Datum × Datum) :=
  changes.filter fun e => e.2.isGiven

/-- Entries with the values of others put over them. -/
def Datum.update (entries changes : List (Datum × Datum)) : List (Datum × Datum) :=
  changes.foldl (fun entries e => put entries e.1 e.2) entries

/-- The values that entries have for a setting, of those that count. -/
def valuesOf (counts : Datum → Bool) (key : SettingKey) (entries : List (Datum × Datum)) :
    List Datum :=
  entries.filterMap fun e => if counts e.2 && e.1.sameKey key.datum then some e.2 else none

/-- The value that changes have for a setting: the last one that is not null. -/
def supplied? (changes : List (Datum × Datum)) (key : SettingKey) : Option Datum :=
  (valuesOf Datum.isGiven key changes).getLast?

section Entries

variable {counts : Datum → Bool} {entries changes : List (Datum × Datum)} {k v d : Datum}
  {key : SettingKey} {e : Datum × Datum}

theorem SettingKey.sameKey_iff : d.sameKey key.datum = true ↔ d = key.datum :=
  Datum.sameKey_text_iff

/-- A key that is the same as a name is the name. -/
theorem SettingKey.sameKey_comm (h : d.sameKey key.datum = true) (k : Datum) :
    d.sameKey k = k.sameKey key.datum := by
  rw [sameKey_iff.1 h, Bool.eq_iff_iff, sameKey_iff]
  exact Datum.text_sameKey_iff

/-- Another key does not change the values of a setting. -/
theorem valuesOf_put_of_not_same (h : k.sameKey key.datum = false) (v : Datum)
    (entries : List (Datum × Datum)) :
    valuesOf counts key (Datum.put entries k v) = valuesOf counts key entries := by
  unfold valuesOf Datum.put
  split
  · rw [List.filterMap_map]
    refine List.filterMap_congr fun e _ => ?_
    cases hsame : e.1.sameKey key.datum with
    | true =>
      have hother : e.1.sameKey k = false := (SettingKey.sameKey_comm hsame k).trans h
      simp [hother, hsame]
    | false =>
      rw [Function.comp_apply]
      split <;> simp [hsame]
  · simp [h]

/-- An entry under the key that was put has the value that was put. -/
theorem value_of_mem_put (he : e ∈ Datum.put entries k v) (hsame : e.1.sameKey k = true) :
    e.2 = v := by
  unfold Datum.put at he
  split at he
  next =>
    obtain ⟨e', -, rfl⟩ := List.mem_map.1 he
    split at hsame
    next hold => rw [if_pos hold]
    next hold => exact absurd hsame hold
  next hnone =>
    rcases List.mem_append.1 he with hold | hnew
    · exact absurd (List.any_eq_true.2 ⟨e, hold, hsame⟩) hnone
    · rw [List.mem_singleton.1 hnew]

/-- There is an entry under the key that was put. -/
theorem exists_mem_put (hk : k.sameKey k = true) (entries : List (Datum × Datum)) (v : Datum) :
    ∃ e ∈ Datum.put entries k v, e.1.sameKey k = true := by
  unfold Datum.put
  split
  next hany =>
    obtain ⟨e, he, hsame⟩ := List.any_eq_true.1 hany
    exact ⟨_, List.mem_map_of_mem he, by rwa [if_pos hsame]⟩
  next => exact ⟨_, List.mem_append_right _ (List.mem_singleton_self _), hk⟩

/-- The name of a setting puts a value in the place of all others that the setting has. -/
theorem valuesOf_put_of_same (h : k.sameKey key.datum = true) (counts : Datum → Bool)
    (hv : counts v = true) (entries : List (Datum × Datum)) :
    ∃ n, valuesOf counts key (Datum.put entries k v) = List.replicate (n + 1) v := by
  obtain rfl := SettingKey.sameKey_iff.1 h
  have hall : ∀ d ∈ valuesOf counts key (Datum.put entries key.datum v), d = v := by
    intro d hd
    obtain ⟨e, he, hvalue⟩ := List.mem_filterMap.1 hd
    split at hvalue
    next hcounts =>
      rw [Bool.and_eq_true] at hcounts
      rw [← Option.some.inj hvalue]
      exact value_of_mem_put he hcounts.2
    next => cases hvalue
  have hne : valuesOf counts key (Datum.put entries key.datum v) ≠ [] := by
    obtain ⟨e, he, hsame⟩ := exists_mem_put h entries v
    refine List.ne_nil_of_mem (a := v) (List.mem_filterMap.2 ⟨e, he, ?_⟩)
    rw [value_of_mem_put he hsame, hv, hsame]
    rfl
  obtain ⟨n, hn⟩ := Nat.exists_eq_succ_of_ne_zero (mt List.length_eq_zero_iff.1 hne)
  exact ⟨n, List.eq_replicate_iff.2 ⟨hn, hall⟩⟩

theorem lookup?_eq_head? (entries : List (Datum × Datum)) (key : SettingKey) :
    Datum.lookup? entries key.datum = (valuesOf (fun _ => true) key entries).head? := by
  induction entries with
  | nil => rfl
  | cons e entries ih =>
    unfold valuesOf Datum.lookup? at ih ⊢
    cases hsame : e.1.sameKey key.datum with
    | true => simp [hsame]
    | false => simpa [hsame] using ih

theorem lookup?_put (entries : List (Datum × Datum)) (k v : Datum) (key : SettingKey) :
    Datum.lookup? (Datum.put entries k v) key.datum =
      if k.sameKey key.datum then some v else Datum.lookup? entries key.datum := by
  simp only [lookup?_eq_head?]
  cases hsame : k.sameKey key.datum with
  | true =>
    obtain ⟨n, hn⟩ := valuesOf_put_of_same hsame (fun _ => true) rfl entries
    rw [hn]
    rfl
  | false =>
    rw [valuesOf_put_of_not_same hsame]
    rfl

theorem supplied?_put (hv : v.isGiven = true) (entries : List (Datum × Datum)) (k : Datum)
    (key : SettingKey) : supplied? (Datum.put entries k v) key =
      if k.sameKey key.datum then some v else supplied? entries key := by
  unfold supplied?
  cases hsame : k.sameKey key.datum with
  | true =>
    obtain ⟨n, hn⟩ := valuesOf_put_of_same hsame Datum.isGiven hv entries
    rw [hn, List.getLast?_replicate]
    rfl
  | false =>
    rw [valuesOf_put_of_not_same hsame]
    rfl

theorem supplied?_cons (e : Datum × Datum) (changes : List (Datum × Datum)) (key : SettingKey) :
    supplied? (e :: changes) key = (supplied? changes key).or
      (if e.2.isGiven && e.1.sameKey key.datum then some e.2 else none) := by
  unfold supplied? valuesOf
  rw [List.filterMap_cons]
  split
  next he => rw [he, Option.or_none]
  next d he =>
    rw [he, List.getLast?_cons]
    cases (List.filterMap _ changes).getLast? <;> rfl

/-- What changes put over entries is what they supply: a value that is found there is the one that
they supply, or else the one that was found before. -/
theorem find_update (find : List (Datum × Datum) → Option Datum)
    (hput : ∀ entries k v, v.isGiven = true → find (Datum.put entries k v) =
      if k.sameKey key.datum then some v else find entries)
    (entries changes : List (Datum × Datum)) :
    find (Datum.update entries (given changes)) = (supplied? changes key).or (find entries) := by
  induction changes generalizing entries with
  | nil => rfl
  | cons e changes ih =>
    rw [supplied?_cons, Option.or_assoc]
    cases hgiven : e.2.isGiven with
    | false =>
      have hdrop : given (e :: changes) = given changes :=
        List.filter_cons_of_neg (by simp [hgiven])
      rw [hdrop, ih]
      rfl
    | true =>
      have hkeep : given (e :: changes) = e :: given changes := List.filter_cons_of_pos hgiven
      rw [hkeep, Datum.update, List.foldl_cons]
      show find (Datum.update (Datum.put entries e.1 e.2) (given changes)) = _
      rw [ih, hput entries e.1 e.2 hgiven, Bool.true_and]
      split <;> rfl

theorem lookup?_update (entries changes : List (Datum × Datum)) (key : SettingKey) :
    Datum.lookup? (Datum.update entries (given changes)) key.datum =
      (supplied? changes key).or (Datum.lookup? entries key.datum) :=
  find_update (fun entries => Datum.lookup? entries key.datum)
    (fun entries k v _ => lookup?_put entries k v key) entries changes

theorem supplied?_update (entries changes : List (Datum × Datum)) (key : SettingKey) :
    supplied? (Datum.update entries (given changes)) key =
      (supplied? changes key).or (supplied? entries key) :=
  find_update (fun entries => supplied? entries key)
    (fun entries k _ hv => supplied?_put hv entries k key) entries changes

/-! ### Names among the keys -/

/-- A key that is the same as a name is one. -/
theorem isName_of_sameKey (hname : SettingKey.isName d = true) (h : d.sameKey k = true) :
    SettingKey.isName k = true := by
  obtain ⟨key, rfl⟩ := SettingKey.isName_iff.1 hname
  rw [Datum.text_sameKey_iff.1 h]
  exact hname

/-- All keys are names behind an entry that was put if and only if they were before, and its key is
one. -/
theorem forall_isName_put : (∀ e ∈ Datum.put entries k v, SettingKey.isName e.1 = true) ↔
    (∀ e ∈ entries, SettingKey.isName e.1 = true) ∧ SettingKey.isName k = true := by
  unfold Datum.put
  split
  next hany =>
    obtain ⟨e, he, hsame⟩ := List.any_eq_true.1 hany
    have hkeys : ∀ e : Datum × Datum, (if e.1.sameKey k then (e.1, v) else e).1 = e.1 := by
      intro e
      split <;> rfl
    simp only [List.forall_mem_map, hkeys]
    exact (and_iff_left_of_imp fun hentries => isName_of_sameKey (hentries e he) hsame).symm
  next => simp only [List.forall_mem_append, List.forall_mem_singleton]

theorem forall_isName_update : (∀ e ∈ Datum.update entries changes, SettingKey.isName e.1 = true) ↔
    (∀ e ∈ entries, SettingKey.isName e.1 = true) ∧
      ∀ e ∈ changes, SettingKey.isName e.1 = true := by
  induction changes generalizing entries with
  | nil => simp [Datum.update]
  | cons e changes ih =>
    show (∀ e' ∈ Datum.update (Datum.put entries e.1 e.2) changes, _) ↔ _
    rw [ih, forall_isName_put, List.forall_mem_cons, and_assoc]

/-- What is among the entries after an update has a name, or was there before. -/
theorem isName_or_mem_of_mem_put (hk : SettingKey.isName k = true)
    (he : e ∈ Datum.put entries k v) : SettingKey.isName e.1 = true ∨ e ∈ entries := by
  obtain ⟨key, rfl⟩ := SettingKey.isName_iff.1 hk
  unfold Datum.put at he
  split at he
  next =>
    obtain ⟨e', he', rfl⟩ := List.mem_map.1 he
    split
    next hsame =>
      rw [SettingKey.sameKey_iff.1 hsame]
      exact .inl hk
    next => exact .inr he'
  next =>
    rcases List.mem_append.1 he with hold | hnew
    · exact .inr hold
    · rw [List.mem_singleton.1 hnew]
      exact .inl hk

theorem isName_or_mem_of_mem_update (hchanges : ∀ e ∈ changes, SettingKey.isName e.1 = true)
    (he : e ∈ Datum.update entries changes) : SettingKey.isName e.1 = true ∨ e ∈ entries := by
  induction changes generalizing entries with
  | nil => exact .inr he
  | cons e' changes ih =>
    obtain ⟨he', hchanges⟩ := List.forall_mem_cons.1 hchanges
    rcases ih hchanges he with hname | hput
    · exact .inl hname
    · exact isName_or_mem_of_mem_put he' hput

theorem forall_given : (∀ e ∈ given changes, SettingKey.isName e.1 = true) ↔
    ∀ e ∈ changes, e.2.isGiven = true → SettingKey.isName e.1 = true := by
  simp only [given, List.mem_filter, and_imp]

end Entries

/-! ## Overriding -/

section Overriding

variable {s t : Settings} {changes changes' : List (Datum × Datum)}

theorem Settings.lookup?_entries (s : Settings) (key : SettingKey) :
    Datum.lookup? s.entries key.datum = some (s.value key) := by
  cases key <;> rfl

theorem Settings.isName_of_mem_entries (s : Settings) :
    ∀ e ∈ s.entries, SettingKey.isName e.1 = true := by
  intro e he
  obtain ⟨key, -, rfl⟩ := List.mem_map.1 he
  exact SettingKey.isName_iff.2 ⟨key, rfl⟩

theorem Settings.override_eq_ok : s.override changes = .ok t ↔
    validate (Datum.update s.entries (given changes)) = .ok t := by
  have hoverride : s.override changes =
      (validate (Datum.update s.entries (given changes))).mapError SettingsFailure.invalid := by
    unfold Settings.override
    dsimp only
    split
    next hok => exact congrArg (Except.mapError SettingsFailure.invalid) hok.symm
    next herror => exact congrArg (Except.mapError SettingsFailure.invalid) herror.symm
  rw [hoverride]
  cases validate (Datum.update s.entries (given changes)) with
  | ok s => simp [Except.mapError]
  | error r => simp [Except.mapError]

/-- What a value takes that is not replaced is the value that it has. -/
theorem Settings.takes_or_value (h : s.IsValid) (key : SettingKey) (d? : Option Datum) :
    t.Takes {} key (d?.or (some (s.value key))) ↔ t.Takes s key d? := by
  cases d? with
  | some d => exact Iff.rfl
  | none =>
    show key.read (s.value key) = .ok (t.get key) ↔ t.get key = s.get key
    rw [SettingKey.read_value h key, Except.ok.injEq, eq_comm]

/-- **Overriding looks at one setting at a time**: each setting takes what the changes supply, or
else stays as it is, as long as only settings are changed. -/
theorem Settings.override_eq_ok_iff (h : s.IsValid) : s.override changes = .ok t ↔
    (∀ key, t.Takes s key (supplied? changes key)) ∧
      ∀ e ∈ changes, e.2.isGiven = true → SettingKey.isName e.1 = true := by
  rw [override_eq_ok, validate_eq_ok_iff, forall_isName_update, forall_given,
    and_iff_right s.isName_of_mem_entries]
  simp only [lookup?_update, lookup?_entries, takes_or_value h]

/-- Settings that come from overriding are accepted. -/
theorem Settings.isValid_of_override (h : s.override changes = .ok t) : t.IsValid :=
  isValid_of_validate (override_eq_ok.1 h)

/-- Overriding nothing changes nothing. -/
theorem Settings.override_nil (h : s.IsValid) : s.override [] = .ok s :=
  (override_eq_ok_iff h).2 ⟨fun _ => rfl, by simp⟩

/-- Overriding twice is overriding once with both changes together. -/
theorem Settings.override_update {u : Settings} (hs : s.IsValid)
    (hfirst : s.override changes = .ok t) (hsecond : t.override changes' = .ok u) :
    s.override (Datum.update changes (given changes')) = .ok u := by
  obtain ⟨htakes, hnames⟩ := (override_eq_ok_iff hs).1 hfirst
  obtain ⟨htakes', hnames'⟩ := (override_eq_ok_iff (isValid_of_override hfirst)).1 hsecond
  refine (override_eq_ok_iff hs).2 ⟨fun key => ?_, fun e he hgiven => ?_⟩
  · rw [supplied?_update]
    exact (htakes' key).trans (htakes key)
  · rcases isName_or_mem_of_mem_update (forall_given.2 hnames') he with hname | hmem
    · exact hname
    · exact hnames e hmem hgiven

end Overriding

/-! ## The environment -/

section Environment

/-- The variable of the environment that a setting has, if it has one. -/
def SettingKey.environmentName? : SettingKey → Option String
  | .historyFile => some "CALCENGINE_HISTORY_FILE"
  | .logLevel => some "CALCENGINE_LOG_LEVEL"
  | .prompt => some "CALCENGINE_PROMPT"
  | .historyEnabled | .historyFormat | .historyTruncate | .stackCapacity | .stackGrowth => none

/-- The value of a variable, if it is there and not empty. -/
def variableValue? (environment : List (List Char × List Char)) (name : String) :
    Option (List Char) :=
  ((environment.find? (·.1 == name.toList)).map (·.2)).filter fun value => !value.isEmpty

/-- The value that the environment has for a setting. -/
def environmentValue? (environment : List (List Char × List Char)) (key : SettingKey) :
    Option Datum :=
  (key.environmentName?.bind (variableValue? environment)).map .text

/-- What the environment asks for, one variable after another. -/
theorem environmentChanges_eq (environment : List (List Char × List Char)) :
    Settings.environmentChanges environment = Settings.environmentKeys.filterMap fun p =>
      (variableValue? environment p.1).map fun value => (p.2.datum, .text value) := by
  refine List.filterMap_congr fun ⟨name, key⟩ _ => ?_
  unfold variableValue?
  dsimp only
  cases environment.find? fun x => x.1 == name.toList with
  | none => rfl
  | some e =>
    obtain ⟨_, value⟩ := e
    cases value <;> rfl

/-- The name of a setting is the key of this setting and of no other one. -/
theorem datum_sameKey_datum (first key : SettingKey) :
    first.datum.sameKey key.datum = decide (first = key) := by
  cases first <;> cases key <;> rfl

/-- The environment supplies the values of its variables. -/
theorem supplied?_environmentChanges (environment : List (List Char × List Char))
    (key : SettingKey) :
    supplied? (Settings.environmentChanges environment) key =
      environmentValue? environment key := by
  have hvalues : supplied? (Settings.environmentChanges environment) key =
      (Settings.environmentKeys.filterMap fun p =>
        if p.2 = key then (variableValue? environment p.1).map .text else none).getLast? := by
    rw [environmentChanges_eq, supplied?, valuesOf, List.filterMap_filterMap]
    congr 2
    funext p
    cases variableValue? environment p.1 with
    | none => split <;> rfl
    | some value =>
      show (if true && p.2.datum.sameKey key.datum then some (Datum.text value) else none) = _
      simp [datum_sameKey_datum]
  rw [hvalues, environmentValue?]
  cases key with
  | historyFile | logLevel | prompt =>
    simp only [SettingKey.environmentName?, Option.bind_some]
    cases hvalue : variableValue? environment _ <;> simp [Settings.environmentKeys, hvalue]
  | historyEnabled | historyFormat | historyTruncate | stackCapacity | stackGrowth => rfl

end Environment

/-! ## The document -/

section Document

variable {tree : FileTree} {path : FilePath} {path? : Option FilePath} {data : Datum}
  {s : Settings} {environment : List (List Char × List Char)}

/-- What a document holds that settings are loaded from: its data, and nothing if no document is
asked for or none is there. -/
inductive IsDocument (tree : FileTree) : Option FilePath → Datum → Prop
  | unasked : IsDocument tree none .null
  | missing {path : FilePath}
      (h : ∀ place, tree.placeOf path = .ok place → tree.read? place = none) :
      IsDocument tree (some path) .null
  | present {path : FilePath} {place : Place} {text : List Char} {data : Datum}
      (hplace : tree.placeOf path = .ok place) (htext : tree.read? place = some text)
      (hdata : Yaml.load (unifyLineEnds text) = .ok data) : IsDocument tree (some path) data

/-- The pairs that a document lists for the settings, flat or in a section. -/
def documentPairs : Datum → List (Datum × Datum)
  | .mapping entries => ((Settings.sectionOf entries).pairs?).toOption.getD []
  | _ => []

/-- The settings that a document gives are what its pairs give. -/
theorem validate_of_ofData (h : Settings.ofData data = .ok s) :
    validate (documentPairs data) = .ok s := by
  cases data with
  | null =>
    cases h
    rfl
  | mapping entries =>
    simp only [Settings.ofData, Settings.ofMapping] at h
    split at h
    next => cases h
    next pairs hpairs =>
      have hlisted : documentPairs (.mapping entries) = pairs := by
        rw [documentPairs, hpairs]
        rfl
      rw [hlisted]
      split at h
      next hvalidate =>
        cases h
        exact hvalidate
      next => cases h
  | bool | int | float | text | surrogates | bytes | date | list | pair | set => cases h

/-- The settings that a file gives come from the document that it holds. -/
theorem exists_isDocument_of_ofFile (h : Settings.ofFile tree path = .ok s) :
    ∃ data, IsDocument tree (some path) data ∧ Settings.ofData data = .ok s := by
  unfold Settings.ofFile at h
  split at h
  next => cases h
  next hplace =>
    refine ⟨.null, .missing fun place hok => ?_, h⟩
    rw [hok] at hplace
    cases hplace
  next place hplace =>
    split at h
    next text htext =>
      unfold Settings.ofYaml at h
      split at h
      next => cases h
      next => cases h
      next data hdata => exact ⟨data, .present hplace htext hdata, h⟩
    next hnone =>
      split at h
      next => cases h
      next =>
        refine ⟨.null, .missing fun place' hok => ?_, h⟩
        rw [hplace] at hok
        cases hok
        exact hnone

/-- What is loaded is what a document gives, overridden by the environment. -/
theorem exists_isDocument_of_load (h : Settings.load tree path? environment = .ok s) :
    ∃ data file, IsDocument tree path? data ∧ Settings.ofData data = .ok file ∧
      file.override (Settings.environmentChanges environment) = .ok s := by
  have hload : ∃ file, (∃ data, IsDocument tree path? data ∧ Settings.ofData data = .ok file) ∧
      (if (Settings.environmentChanges environment).isEmpty then .ok file
        else file.override (Settings.environmentChanges environment)) = .ok s := by
    unfold Settings.load at h
    cases path? with
    | none => exact ⟨{}, ⟨.null, .unasked, rfl⟩, h⟩
    | some path =>
      obtain ⟨file, hfile, hchanges⟩ := bind_eq_ok.1 h
      exact ⟨file, exists_isDocument_of_ofFile hfile, hchanges⟩
  obtain ⟨file, ⟨data, hdata, hgives⟩, hchanges⟩ := hload
  refine ⟨data, file, hdata, hgives, ?_⟩
  split at hchanges
  next hempty =>
    cases hchanges
    rw [List.isEmpty_iff.1 hempty]
    exact Settings.override_nil (isValid_of_validate (validate_of_ofData hgives))
  next => exact hchanges

end Document

/-! ## The layers together -/

/-- **Each setting comes from the highest layer that has a value for it.**  If settings are loaded
and overridden, then each of them is what its rule reads of the value that the command line
supplies, or else the environment, or else the document, flat or in a section; if none of them has a
value for it, it is the default.  No layer changes a setting that it has no value for.  In
particular, overriding accepted settings with nothing gives the same settings, and overriding them
twice is overriding them once with the first changes updated by those of the second ones that are
not null. -/
theorem settings_layered :
    (∀ (tree : FileTree) (path? : Option FilePath) (environment : List (List Char × List Char))
        (cli : List (Datum × Datum)) (loaded s : Settings),
      Settings.load tree path? environment = .ok loaded → loaded.override cli = .ok s →
      ∃ data file, IsDocument tree path? data ∧ Settings.ofData data = .ok file ∧ ∀ key,
        s.Takes {} key ((supplied? cli key).or ((environmentValue? environment key).or
          (Datum.lookup? (documentPairs data) key.datum))) ∧
        (supplied? cli key = none → s.get key = loaded.get key) ∧
        (environmentValue? environment key = none → loaded.get key = file.get key) ∧
        (Datum.lookup? (documentPairs data) key.datum = none →
          file.get key = ({} : Settings).get key)) ∧
    (∀ (pairs : List (Datum × Datum)) (c : Settings), validate pairs = .ok c →
      c.override [] = .ok c) ∧
    ∀ (pairs first second : List (Datum × Datum)) (c c₁ c₂ : Settings), validate pairs = .ok c →
      c.override first = .ok c₁ → c₁.override second = .ok c₂ →
      c.override (Datum.update first (given second)) = .ok c₂ := by
  refine ⟨fun tree path? environment cli loaded s hload hcli => ?_,
    fun pairs c hc => Settings.override_nil (isValid_of_validate hc),
    fun pairs first second c c₁ c₂ hc => Settings.override_update (isValid_of_validate hc)⟩
  obtain ⟨data, file, hdata, hgives, hchanges⟩ := exists_isDocument_of_load hload
  have hfile := validate_of_ofData hgives
  obtain ⟨hfromFile, -⟩ := validate_eq_ok_iff.1 hfile
  obtain ⟨hfromEnvironment, -⟩ :=
    (Settings.override_eq_ok_iff (isValid_of_validate hfile)).1 hchanges
  obtain ⟨hfromCli, -⟩ :=
    (Settings.override_eq_ok_iff (Settings.isValid_of_override hchanges)).1 hcli
  refine ⟨data, file, hdata, hgives, fun key => ?_⟩
  have hcliKey := hfromCli key
  have henvironmentKey := hfromEnvironment key
  rw [supplied?_environmentChanges] at henvironmentKey
  have hfileKey := hfromFile key
  refine ⟨hcliKey.trans (henvironmentKey.trans hfileKey), fun hnone => ?_, fun hnone => ?_,
    fun hnone => ?_⟩
  · rwa [hnone] at hcliKey
  · rwa [hnone] at henvironmentKey
  · rwa [hnone] at hfileKey

/-- The theorem at a document with a prompt and a level, an environment with another level and an
empty prompt, and a command line without a history. -/
theorem settings_layered_four :
    let tree := (runOfDocument "calculator: {prompt: $, log_level: info}").tree
    let path := FilePath.ofText "desk".toList
    let environment := [("CALCENGINE_LOG_LEVEL".toList, "error".toList),
      ("CALCENGINE_PROMPT".toList, [])]
    let cli := [(SettingKey.historyEnabled.datum, Datum.bool false),
      (SettingKey.logLevel.datum, Datum.null)]
    let loaded : Settings := { prompt := codePoints ['$'], logLevel := .error }
    let s : Settings := { loaded with historyEnabled := false }
    Settings.load tree (some path) environment = .ok loaded ∧ loaded.override cli = .ok s ∧
      s.Takes {} .historyEnabled (some (.bool false)) ∧
      s.Takes {} .logLevel (some (.ofString "error")) ∧
      (∃ data file, IsDocument tree (some path) data ∧ Settings.ofData data = .ok file ∧
        s.get .prompt = file.get .prompt) ∧
      loaded.override [] = .ok loaded ∧
      loaded.override (Datum.update cli (given [(SettingKey.prompt.datum, .ofString "# ")])) =
        .ok { s with prompt := codePoints "# ".toList } := by
  have hreads : (runOfDocument "calculator: {prompt: $, log_level: info}").ReadsDocument
      { config? := some (.ofText "desk".toList) }
      (.mapping [(.ofString "calculator", .mapping [(.ofString "prompt", .ofString "$"),
        (.ofString "log_level", .ofString "info")])]) := readsDocument_runOfDocument (by cbv)
  obtain ⟨path, hpath, hdata⟩ := hreads.ofFile_eq
  cases hpath
  have hfile := hdata.trans
    (show _ = .ok { prompt := codePoints ['$'], logLevel := .info } from rfl)
  have hvalid : validate
      ({ prompt := codePoints ['$'], logLevel := .error } : Settings).entries =
      .ok { prompt := codePoints ['$'], logLevel := .error } := rfl
  have hcli : ({ prompt := codePoints ['$'], logLevel := .error } : Settings).override
      [(SettingKey.historyEnabled.datum, .bool false), (SettingKey.logLevel.datum, .null)] =
      .ok { historyEnabled := false, prompt := codePoints ['$'], logLevel := .error } := rfl
  have hprompt : ({ historyEnabled := false, prompt := codePoints ['$'], logLevel := .error } :
      Settings).override [(SettingKey.prompt.datum, .ofString "# ")] =
      .ok { historyEnabled := false, prompt := codePoints "# ".toList, logLevel := .error } := rfl
  intro tree path environment cli loaded s
  have hload : Settings.load tree (some path) environment = .ok loaded := by
    unfold Settings.load
    dsimp only
    rw [hfile, ok_bind]
    rfl
  obtain ⟨hlayers, hnothing, htwice⟩ := settings_layered
  obtain ⟨data, file, hdocument, hgives, hkeys⟩ := hlayers _ _ _ _ _ _ hload hcli
  exact ⟨hload, hcli, (hkeys .historyEnabled).1, (hkeys .logLevel).1,
    ⟨data, file, hdocument, hgives, ((hkeys .prompt).2.1 rfl).trans ((hkeys .prompt).2.2.1 rfl)⟩,
    hnothing _ _ hvalid, htwice _ _ _ _ _ _ hvalid hcli hprompt⟩

end DeskCalculator
