import DeskCalculator.Proofs.Paths
import DeskCalculator.Proofs.Settings.Usable
import Mathlib

/-!
# Settings one by one

The rules for values look at one setting each.  So settings are accepted if and only if each of them
takes the value that the data has for it, or its default if the data has none, and no key is left
over.  The values of accepted settings are accepted again, and are not changed by it.

* `Settings.get`, `Settings.put` and `SettingKey.read` — a setting by its name, and the rule for it.
* `validate_eq_ok_iff` — validation, one setting at a time.
* `Settings.IsValid` — what accepted settings have in common.
* `SettingKey.read_value` — the value of such a setting is read as it is.
-/

namespace DeskCalculator

/-! ## Settings by name -/

/-- The values that a setting can have. -/
def SettingKey.Value : SettingKey → Type
  | .historyEnabled | .historyTruncate => Bool
  | .historyFile => FilePath
  | .historyFormat => HistoryFormat
  | .prompt => CodePoints
  | .stackCapacity | .stackGrowth => Int
  | .logLevel => LogThreshold

/-- The rule for the values of a setting. -/
def SettingKey.read : (key : SettingKey) → Datum → Except Problem key.Value
  | .historyEnabled | .historyTruncate => readBool
  | .historyFile => readPath
  | .historyFormat => readFormat
  | .prompt => readText
  | .stackCapacity => readIntFrom 0
  | .stackGrowth => readIntFrom 1
  | .logLevel => readThreshold

namespace Settings

/-- The value of a setting. -/
def get (s : Settings) : (key : SettingKey) → key.Value
  | .historyEnabled => s.historyEnabled
  | .historyFile => s.historyFile
  | .historyFormat => s.historyFormat
  | .historyTruncate => s.historyTruncate
  | .prompt => s.prompt
  | .stackCapacity => s.stackCapacity
  | .stackGrowth => s.stackGrowth
  | .logLevel => s.logLevel

/-- Settings with one value replaced. -/
def put (s : Settings) : (key : SettingKey) → key.Value → Settings
  | .historyEnabled, b => { s with historyEnabled := b }
  | .historyFile, p => { s with historyFile := p }
  | .historyFormat, f => { s with historyFormat := f }
  | .historyTruncate, b => { s with historyTruncate := b }
  | .prompt, t => { s with prompt := t }
  | .stackCapacity, n => { s with stackCapacity := n }
  | .stackGrowth, n => { s with stackGrowth := n }
  | .logLevel, t => { s with logLevel := t }

variable {s t : Settings} {key key' : SettingKey}

@[simp]
theorem get_put (s : Settings) (key : SettingKey) (v : key.Value) : (s.put key v).get key = v := by
  cases key <;> rfl

theorem get_put_of_ne (h : key ≠ key') (s : Settings) (v : key'.Value) :
    (s.put key' v).get key = s.get key := by
  cases key <;> cases key' <;> first | rfl | exact absurd rfl h

/-- Settings are the same if each of them is. -/
theorem ext_get (h : ∀ key, s.get key = t.get key) : s = t := by
  obtain ⟨⟩ := s
  obtain ⟨⟩ := t
  rw [mk.injEq]
  exact ⟨h .historyEnabled, h .historyFile, h .historyFormat, h .historyTruncate, h .prompt,
    h .stackCapacity, h .stackGrowth, h .logLevel⟩

/-- A setting is changed to what its rule reads. -/
theorem set_eq (s : Settings) (key : SettingKey) (d : Datum) :
    s.set key d = (key.read d).map (s.put key) := by
  cases key <;> rfl

/-- A setting has the value that is given for it; if none is given, it has the value that it has in
other settings. -/
def Takes (s base : Settings) (key : SettingKey) : Option Datum → Prop
  | some d => key.read d = .ok (s.get key)
  | none => s.get key = base.get key

/-- Two settings that take the same are the same. -/
theorem Takes.unique {base : Settings} {d? : Option Datum} (hs : s.Takes base key d?)
    (ht : t.Takes base key d?) : s.get key = t.get key := by
  cases d? with
  | none => exact Eq.trans hs ht.symm
  | some d => exact Except.ok.inj (Eq.trans hs.symm ht)

/-- What is not taken from one layer is taken from the one below. -/
theorem Takes.trans {u : Settings} {d? d?' : Option Datum} (hu : u.Takes t key d?)
    (ht : t.Takes s key d?') : u.Takes s key (d?.or d?') := by
  cases d? with
  | some d => exact hu
  | none =>
    cases d?' with
    | some d =>
      show key.read d = .ok (u.get key)
      rw [show u.get key = t.get key from hu]
      exact ht
    | none => exact Eq.trans hu ht

/-- Of the other settings only the value of the same name matters. -/
theorem Takes.of_get {base base' : Settings} {d? : Option Datum} (h : s.Takes base key d?)
    (hbase : base.get key = base'.get key) : s.Takes base' key d? := by
  cases d? with
  | none => exact Eq.trans h hbase
  | some d => exact h

end Settings

/-! ## Names as keys -/

namespace Datum

variable {d : Datum} {name : List Char}

/-- A text is no other key than itself. -/
theorem sameKey_text_iff : d.sameKey (.text name) = true ↔ d = .text name := by
  cases d <;> simp [sameKey, wholeKey?]

theorem text_sameKey_iff : (text name).sameKey d = true ↔ d = .text name := by
  cases d with
  | text s => simp [sameKey, eq_comm (a := name)]
  | null | bool | int | float | surrogates | bytes | date | list | pair | set | mapping =>
    simp [sameKey, wholeKey?]

end Datum

theorem SettingKey.mem_all (key : SettingKey) : key ∈ all := by
  cases key <;> decide

theorem SettingKey.isName_iff {d : Datum} :
    isName d = true ↔ ∃ key : SettingKey, d = key.datum := by
  rw [isName, List.any_eq_true]
  constructor
  · rintro ⟨key, -, hkey⟩
    exact ⟨key, Datum.text_sameKey_iff.1 hkey⟩
  · rintro ⟨key, rfl⟩
    exact ⟨key, key.mem_all, Datum.text_sameKey_iff.2 rfl⟩

/-! ## Validation -/

section Validation

variable {pairs : List (Datum × Datum)} {s t : Settings} {key : SettingKey}
  {keys : List SettingKey}

/-- Nothing is wrong with values that can be read. -/
theorem setAll_issues (h : ∀ key ∈ keys, ∀ d, Datum.lookup? pairs key.datum = some d →
    ∃ v, key.read d = .ok v) (s : Settings) : (setAll pairs s keys).2 = [] := by
  induction keys generalizing s with
  | nil => rfl
  | cons key keys ih =>
    obtain ⟨hkey, hkeys⟩ := List.forall_mem_cons.1 h
    cases hlookup : Datum.lookup? pairs key.datum with
    | none =>
      rw [setAll_of_none hlookup]
      exact ih hkeys s
    | some d =>
      obtain ⟨v, hv⟩ := hkey d hlookup
      have hset : s.set key d = .ok (s.put key v) := by
        rw [Settings.set_eq, hv]
        rfl
      rw [setAll_of_some hlookup hset]
      exact ih hkeys _

/-- If nothing is wrong, each setting takes what the data has for it. -/
theorem takes_setAll (hnodup : keys.Nodup) (h : (setAll pairs s keys).2 = []) (key : SettingKey) :
    (setAll pairs s keys).1.Takes s key
      (if key ∈ keys then Datum.lookup? pairs key.datum else none) := by
  induction keys generalizing s with
  | nil => rfl
  | cons first keys ih =>
    obtain ⟨hfirst, hnodup⟩ := List.nodup_cons.1 hnodup
    cases hlookup : Datum.lookup? pairs first.datum with
    | none =>
      rw [setAll_of_none hlookup] at h ⊢
      have hrest := ih hnodup h
      by_cases hkey : key = first
      · subst hkey
        rw [if_neg hfirst] at hrest
        rw [if_pos List.mem_cons_self, hlookup]
        exact hrest
      · simpa only [List.mem_cons, hkey, false_or] using hrest
    | some d =>
      cases hread : first.read d with
      | error problem =>
        rw [setAll, hlookup] at h
        simp only [Settings.set_eq, hread] at h
        cases h
      | ok v =>
        have hset : s.set first d = .ok (s.put first v) := by
          rw [Settings.set_eq, hread]
          rfl
        rw [setAll_of_some hlookup hset] at h ⊢
        have hrest := ih hnodup h
        by_cases hkey : key = first
        · subst hkey
          rw [if_neg hfirst] at hrest
          have hget : (setAll pairs (s.put key v) keys).1.get key = v :=
            Eq.trans hrest (s.get_put key v)
          rw [if_pos List.mem_cons_self, hlookup, Settings.Takes, hget]
          exact hread
        · simp only [List.mem_cons, hkey, false_or]
          exact hrest.of_get (Settings.get_put_of_ne hkey s v)

/-- Without anything wrong or left over, the settings are what all of them have taken. -/
theorem validate_eq_ok_iff_setAll : validate pairs = .ok s ↔
    setAll pairs {} SettingKey.all = (s, []) ∧ ∀ e ∈ pairs, SettingKey.isName e.1 = true := by
  have hstray : strayKeys pairs = [] ↔ ∀ e ∈ pairs, SettingKey.isName e.1 = true := by
    simp [strayKeys]
  rw [← hstray]
  unfold validate
  constructor
  · intro h
    dsimp only at h
    split at h
    · cases h
    · split at h
      · cases h
      · split at h
        next hempty =>
          rw [List.isEmpty_iff, List.append_eq_nil_iff] at hempty
          exact ⟨Prod.ext (Except.ok.inj h) hempty.1, hempty.2⟩
        next => cases h
  · rintro ⟨hset, hnone⟩
    have hkeys : hasSurrogateKey pairs = false := by
      rw [hasSurrogateKey, List.any_eq_false]
      intro e he
      obtain ⟨key, hkey⟩ := SettingKey.isName_iff.1 (hstray.1 hnone e he)
      rw [hkey]
      exact Bool.false_ne_true
    rw [hset]
    dsimp only
    rw [hkeys, hnone]
    rfl

/-- **Validation looks at one setting at a time**: settings are accepted if and only if each of them
takes what the data has for it, or else its default, and all keys are names of settings. -/
theorem validate_eq_ok_iff : validate pairs = .ok s ↔
    (∀ key, s.Takes {} key (Datum.lookup? pairs key.datum)) ∧
      ∀ e ∈ pairs, SettingKey.isName e.1 = true := by
  rw [validate_eq_ok_iff_setAll]
  refine and_congr_left fun _ => ⟨fun hset key => ?_, fun htakes => ?_⟩
  · have htakes := takes_setAll (s := {}) (by decide) (congrArg Prod.snd hset) key
    rwa [hset, if_pos key.mem_all] at htakes
  · have hissues : (setAll pairs {} SettingKey.all).2 = [] := by
      refine setAll_issues (fun key _ d hlookup => ?_) {}
      have hread := htakes key
      rw [hlookup] at hread
      exact ⟨_, hread⟩
    refine Prod.ext (Settings.ext_get fun key => ?_) hissues
    have hset := takes_setAll (by decide) hissues key
    rw [if_pos key.mem_all] at hset
    exact hset.unique (htakes key)

end Validation

/-! ## Accepted settings -/

section Accepted

variable {s : Settings} {d : Datum} {p : FilePath} {t : CodePoints}

/-- A text is one of characters or one with a surrogate, and has the same code points either way. -/
theorem Datum.ofCodePoints_cases (t : CodePoints) :
    (∃ chars, codePoints chars = t ∧ Datum.ofCodePoints t = .text chars) ∨
      Datum.ofCodePoints t = .surrogates t := by
  unfold Datum.ofCodePoints CodePoints.chars?
  split
  next hvalid =>
    refine .inl ⟨t.map Char.ofNat, ?_, rfl⟩
    rw [codePoints, List.map_map, List.map_congr_left (g := id) fun n hn => ?_, List.map_id]
    have hn : n.isValidChar := by simpa using List.all_eq_true.1 hvalid n hn
    rw [Function.comp_apply, Char.toNat_ofNat, if_pos hn, id]
  next => exact .inr rfl

theorem readText_ofCodePoints (t : CodePoints) : readText (.ofCodePoints t) = .ok t := by
  rcases Datum.ofCodePoints_cases t with ⟨chars, rfl, htext⟩ | htext
  · rw [htext]
    rfl
  · rw [htext]
    rfl

theorem readPath_ofCodePoints (t : CodePoints) :
    readPath (.ofCodePoints t) = .ok (FilePath.ofCodePoints t) := by
  rcases Datum.ofCodePoints_cases t with ⟨chars, rfl, htext⟩ | htext
  · rw [htext]
    rfl
  · rw [htext]
    rfl

theorem isRead_of_readPath (h : readPath d = .ok p) : p.IsRead := by
  unfold readPath at h
  split at h
  · cases h
    exact FilePath.isRead_ofCodePoints _
  · cases h
    exact FilePath.isRead_ofCodePoints _
  · cases h

theorem readThreshold_name (t : LogThreshold) : readThreshold (.ofString t.name) = .ok t := by
  cases t <;> rfl

theorem readFormat_name (f : HistoryFormat) : readFormat (.ofString f.name) = .ok f := by
  cases f <;> rfl

/-- What settings have in common that were accepted: a path that was read, and sensible limits. -/
structure Settings.IsValid (s : Settings) : Prop where
  isRead : s.historyFile.IsRead
  sensible : s.limits.Sensible

/-- **The value of a setting is read as it is.** -/
theorem SettingKey.read_value (h : s.IsValid) (key : SettingKey) :
    key.read (s.value key) = .ok (s.get key) := by
  cases key with
  | historyEnabled | historyTruncate => rfl
  | historyFile =>
    have hread := readPath_ofCodePoints s.historyFile.text
    rwa [h.isRead.ofCodePoints_text] at hread
  | historyFormat => exact readFormat_name s.historyFormat
  | prompt => exact readText_ofCodePoints s.prompt
  | stackCapacity => exact if_neg (Int.not_lt.2 h.sensible.capacity_nonneg)
  | stackGrowth => exact if_neg (Int.not_lt.2 h.sensible.growth_pos)
  | logLevel => exact readThreshold_name s.logLevel

theorem isValid_of_validate {pairs : List (Datum × Datum)} (h : validate pairs = .ok s) :
    s.IsValid := by
  refine ⟨?_, sensible_of_validate h⟩
  have hpath := (validate_eq_ok_iff.1 h).1 .historyFile
  cases hlookup : Datum.lookup? pairs SettingKey.historyFile.datum with
  | none =>
    rw [hlookup] at hpath
    rw [show s.historyFile = FilePath.ofText "log.txt".toList from hpath]
    exact FilePath.isRead_ofCodePoints _
  | some d =>
    rw [hlookup] at hpath
    exact isRead_of_readPath hpath

end Accepted

end DeskCalculator
