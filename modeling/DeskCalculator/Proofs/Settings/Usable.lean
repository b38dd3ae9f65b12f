import DeskCalculator.CommandLine.Desk
import DeskCalculator.Proofs.Containment
import Mathlib

/-!
# Settings that can be used

Settings that are accepted put sensible limits on stacks, but they put no upper bound on them, while
stacks have one.  So a calculator with accepted settings answers every line of a given length if and
only if its stacks have room for that many elements; and if they have not, a line of opening brackets
shows it.

* `sensible_of_validate` — what accepted settings say of stacks.
* `validate_limits` — sensible limits are accepted, however large.
* `exists_goesOn_or_overflow` — with sensible limits nothing goes wrong but for want of room.
* `answers_all_iff_fits` — when there is room for all lines up to a length.
* `accepted_settings_usable` — the same of a calculator with accepted settings.
-/

namespace DeskCalculator

/-! ## Accepted settings -/

section Accepted

variable {settings next : Settings} {key : SettingKey} {d : Datum} {least n : Int}
  {pairs : List (Datum × Datum)}

theorem le_of_readIntFrom (h : readIntFrom least d = .ok n) : least ≤ n := by
  obtain ⟨m, -, h⟩ := bind_eq_ok.1 h
  split at h
  · cases h
  · cases h
    omega

/-- A setting that is changed leaves the limits sensible. -/
theorem Settings.sensible_set (h : settings.limits.Sensible) (hset : settings.set key d = .ok next) :
    next.limits.Sensible := by
  cases key with
  | stackCapacity =>
    obtain ⟨n, hn, rfl⟩ := map_eq_ok.1 hset
    exact ⟨le_of_readIntFrom hn, h.growth_pos⟩
  | stackGrowth =>
    obtain ⟨n, hn, rfl⟩ := map_eq_ok.1 hset
    exact ⟨h.capacity_nonneg, le_of_readIntFrom hn⟩
  | historyEnabled | historyFile | historyFormat | historyTruncate | prompt | logLevel =>
    obtain ⟨value, -, rfl⟩ := map_eq_ok.1 hset
    exact ⟨h.capacity_nonneg, h.growth_pos⟩

theorem setAll_of_none (h : Datum.lookup? pairs key.datum = none) (keys : List SettingKey) :
    setAll pairs settings (key :: keys) = setAll pairs settings keys := by
  rw [setAll, h]

theorem setAll_of_some (h : Datum.lookup? pairs key.datum = some d)
    (hset : settings.set key d = .ok next) (keys : List SettingKey) :
    setAll pairs settings (key :: keys) = setAll pairs next keys := by
  rw [setAll, h]
  dsimp only
  rw [hset]

theorem sensible_setAll (h : settings.limits.Sensible) (keys : List SettingKey) :
    (setAll pairs settings keys).1.limits.Sensible := by
  induction keys generalizing settings with
  | nil => exact h
  | cons key keys ih =>
    rw [setAll]
    split
    · exact ih h
    · split
      · rename_i hset
        exact ih (Settings.sensible_set h hset)
      · exact ih h

/-- Accepted settings put sensible limits on stacks. -/
theorem sensible_of_validate (h : validate pairs = .ok settings) : settings.limits.Sensible := by
  have hdefault : ({} : Settings).limits.Sensible := ⟨by decide, by decide⟩
  unfold validate at h
  dsimp only at h
  split at h
  · cases h
  · split at h
    · cases h
    · split at h
      · cases h
        exact sensible_setAll hdefault SettingKey.all
      · cases h

/-- Data that sets the limits of stacks and wants no history. -/
def limitPairs (limits : StackLimits) : List (Datum × Datum) :=
  [(SettingKey.historyEnabled.datum, .bool false),
    (SettingKey.stackCapacity.datum, .int limits.capacity),
    (SettingKey.stackGrowth.datum, .int limits.growth)]

/-- The settings that such data gives. -/
def limitSettings (limits : StackLimits) : Settings :=
  { historyEnabled := false, stackCapacity := limits.capacity, stackGrowth := limits.growth }

/-- Sensible limits are accepted, however large they are. -/
theorem validate_limits {limits : StackLimits} (h : limits.Sensible) :
    validate (limitPairs limits) = .ok (limitSettings limits) := by
  have hcapacity : readIntFrom 0 (.int limits.capacity) = .ok limits.capacity :=
    if_neg (Int.not_lt.2 h.capacity_nonneg)
  have hgrowth : readIntFrom 1 (.int limits.growth) = .ok limits.growth :=
    if_neg (Int.not_lt.2 h.growth_pos)
  have hsetCapacity (s : Settings) : s.set .stackCapacity (.int limits.capacity) =
      .ok { s with stackCapacity := limits.capacity } := by
    rw [Settings.set, hcapacity]
    rfl
  have hsetGrowth (s : Settings) : s.set .stackGrowth (.int limits.growth) =
      .ok { s with stackGrowth := limits.growth } := by
    rw [Settings.set, hgrowth]
    rfl
  have hset : setAll (limitPairs limits) {} SettingKey.all = (limitSettings limits, []) := by
    rw [SettingKey.all, setAll_of_some rfl rfl, setAll_of_none rfl, setAll_of_none rfl,
      setAll_of_none rfl, setAll_of_none rfl, setAll_of_some rfl (hsetCapacity _),
      setAll_of_some rfl (hsetGrowth _), setAll_of_none rfl]
    rfl
  rw [validate, hset]
  rfl

end Accepted

/-! ## Lines and room -/

/-- A line of opening brackets has one token for each of them. -/
theorem exists_scans_openings (n column : Nat) :
    ∃ tokens column', Scans column (List.replicate n '(') tokens column' [] ∧
      tokens.length = n ∧ ∀ t ∈ tokens, t.symbol? = some .opening ∧ t.isExit = false := by
  induction n generalizing column with
  | zero => exact ⟨[], column, .done, rfl, by simp⟩
  | succ n ih =>
    obtain ⟨tokens, column', hscans, hlength, htokens⟩ := ih (column + 1)
    refine ⟨⟨.symbol, ['('], column⟩ :: tokens, column', ?_, by rw [List.length_cons, hlength],
      List.forall_mem_cons.2 ⟨⟨rfl, rfl⟩, htokens⟩⟩
    exact Scans.token (t := ⟨.symbol, ['('], column⟩) rfl trivial hscans

section Lines

variable {σ : Type} {limits : StackLimits} {sink : Sink σ} {s : Session σ} {line : List Char}
  {n : Nat}

/-- A line is answered if there is room for its characters. -/
theorem answered_of_fits (hsensible : limits.Sensible) (hfits : limits.Fits line.length) :
    ∃ goesOn, (answerLine limits sink s line).goesOn = .ok goesOn := by
  refine exists_goesOn_of_contained (fun tokens htokens => ?_) sink
  exact contained_of_parse htokens
    (parse_of_fits hsensible (hfits.of_le (length_le_of_tokenize htokens)) _)

/-- With sensible limits a line is answered, unless room is wanting. -/
theorem exists_goesOn_or_overflow (hsensible : limits.Sensible) (sink : Sink σ) (s : Session σ)
    (line : List Char) :
    (∃ goesOn, (answerLine limits sink s line).goesOn = .ok goesOn) ∨
      ∃ e : Failure, e.IsOverflow ∧ (answerLine limits sink s line).goesOn = .error e := by
  rcases exists_goesOn_or limits sink s line with
    hanswered | ⟨tokens, e, htokens, hvalue, hrecoverable, hgoesOn⟩
  · exact .inl hanswered
  · rcases parse_eq_or_overflow hsensible (resolve s.last?) tokens with
      hparse | ⟨e', he', hparse⟩
    · have hcontained := contained_of_parse htokens hparse
      rw [hcontained.isRecoverable hvalue] at hrecoverable
      cases hrecoverable
    · rw [evaluateTokens_eq, parseTokens, hparse] at hvalue
      cases hvalue
      exact .inr ⟨e, he', hgoesOn⟩

/-- A session does not survive a failure for want of room. -/
theorem Failure.IsOverflow.isRecoverable {e : Failure} (h : e.IsOverflow) :
    e.isRecoverable = false := by
  rcases h with rfl | rfl <;> rfl

/-- The failure of a calculation that a session does not survive takes the place of an answer. -/
theorem goesOn_of_failure {tokens : List Token} {e : Failure} (htokens : tokenize line = .ok tokens)
    (hexit : hasExit tokens = false) (hne : tokens ≠ [])
    (hvalue : evaluateTokens limits s.last? tokens = .error e) (he : e.isRecoverable = false) :
    (answerLine limits sink s line).goesOn = .error e := by
  have houtcome : (s.calculateTokens limits sink tokens).outcome.map Evaluation.value =
      .error e := Session.calculateTokens_outcome.trans hvalue
  have hnil : tokens.isEmpty = false := by simpa using hne
  unfold answerLine
  cases hcalculated : (s.calculateTokens limits sink tokens).outcome with
  | ok result =>
    rw [hcalculated] at houtcome
    cases houtcome
  | error e' =>
    rw [hcalculated] at houtcome
    cases houtcome
    simp [htokens, hexit, hnil, hcalculated, LineReply.ofFailure, he]

/-- A line of opening brackets needs room for all of them. -/
theorem overflow_of_brackets (hsensible : limits.Sensible) (hn : n ≠ 0)
    (hfits : ¬ limits.Fits n) (sink : Sink σ) (s : Session σ) :
    ∃ e : Failure, e.IsOverflow ∧
      (answerLine limits sink s (List.replicate n '(')).goesOn = .error e := by
  obtain ⟨tokens, column, hscans, rfl, htokens⟩ := exists_scans_openings n 0
  have hne : tokens ≠ [] := by
    rintro rfl
    exact hn rfl
  obtain ⟨e, he, hparse⟩ :=
    overflow_of_openings hsensible hne (fun t ht => (htokens t ht).1) hfits (resolve s.last?)
  refine ⟨e, he, goesOn_of_failure (tokenize_eq_ok_iff.2 ⟨column, hscans⟩) ?_ hne ?_
    he.isRecoverable⟩
  · simpa [hasExit] using fun t ht => (htokens t ht).2
  · rw [evaluateTokens_eq, parseTokens, hparse]
    rfl

/-- All lines up to a length are answered if and only if there is room for so many elements. -/
theorem answers_all_iff_fits (hsensible : limits.Sensible) (hn : n ≠ 0) (sink : Sink σ)
    (s : Session σ) :
    (∀ line : List Char, line.length ≤ n →
      ∃ goesOn, (answerLine limits sink s line).goesOn = .ok goesOn) ↔ limits.Fits n := by
  constructor
  · intro hall
    by_contra hfits
    obtain ⟨goesOn, hok⟩ := hall _ (Nat.le_of_eq List.length_replicate)
    obtain ⟨e, -, herror⟩ := overflow_of_brackets hsensible hn hfits sink s
    rw [hok] at herror
    cases herror
  · exact fun hfits line hline => answered_of_fits hsensible (hfits.of_le hline)

end Lines

/-! ## The calculator with accepted settings -/

/-- **Accepted settings can be used as far as stacks reach.**  Settings are accepted with limits on
stacks that are sensible, and without a history a calculator with them is made.  At any time it
answers every line, unless a stack would have to go beyond the largest capacity; and it answers all
lines of fewer than `2 ^ 31` characters if and only if the capacity, in growing, comes to what they
need before it goes beyond. -/
theorem accepted_settings_usable {pairs : List (Datum × Datum)} {settings : Settings}
    (haccepted : validate pairs = .ok settings) (hsilent : settings.historyEnabled = false)
    (tree : FileTree) :
    0 ≤ settings.stackCapacity ∧ 1 ≤ settings.stackGrowth ∧
      ∃ desk, Desk.start tree settings = .ok (desk, []) ∧
        ∀ session now,
          (∀ line, (∃ goesOn, ((desk.withSession session).answer now line).goesOn = .ok goesOn) ∨
            ∃ e : Failure, e.IsOverflow ∧
              ((desk.withSession session).answer now line).goesOn = .error e) ∧
          ((∀ line : List Char, line.length < 2 ^ 31 →
              ∃ goesOn, ((desk.withSession session).answer now line).goesOn = .ok goesOn) ↔
            settings.limits.Fits (2 ^ 31 - 1)) := by
  have hsensible := sensible_of_validate haccepted
  refine ⟨hsensible.capacity_nonneg, hsensible.growth_pos,
    ⟨settings, { sink := { tree } }⟩, ?_, fun session now => ⟨fun line => ?_, ?_⟩⟩
  · rw [Desk.start, Archive.start, if_neg (by simp [hsilent])]
    rfl
  · exact exists_goesOn_or_overflow hsensible _ session line
  · have hall := answers_all_iff_fits hsensible (show 2 ^ 31 - 1 ≠ 0 by decide)
      (Archive.sink now) session
    simp only [Nat.le_sub_one_iff_lt (show 0 < 2 ^ 31 by decide)] at hall
    exact hall

/-- The theorem at the least limits that are accepted: there is room for every line. -/
theorem accepted_settings_usable_least :
    let limits : StackLimits := ⟨0, 1⟩
    validate (limitPairs limits) = .ok (limitSettings limits) ∧
      (limitSettings limits).historyEnabled = false ∧
      ∃ desk, Desk.start {} (limitSettings limits) = .ok (desk, []) ∧
        ∀ line : List Char, line.length < 2 ^ 31 →
          ∃ goesOn, (desk.answer [] line).goesOn = .ok goesOn := by
  intro limits
  have hsensible : limits.Sensible := ⟨by decide, by decide⟩
  have haccepted := validate_limits hsensible
  have hfits : (limitSettings limits).limits.Fits (2 ^ 31 - 1) :=
    ⟨2 ^ 31 - 1, by decide, by decide⟩
  obtain ⟨-, -, desk, hdesk, hanswers⟩ := accepted_settings_usable haccepted rfl {}
  exact ⟨haccepted, rfl, desk, hdesk, (hanswers desk.session []).2.2 hfits⟩

/-- A capacity beyond the largest one is accepted, but the first calculation with it overflows. -/
theorem accepted_capacity_overflows :
    let limits : StackLimits := ⟨2 ^ 63, 32⟩
    validate (limitPairs limits) = .ok (limitSettings limits) ∧
      ∃ desk, Desk.start {} (limitSettings limits) = .ok (desk, []) ∧
        (desk.answer [] "1".toList).goesOn = .error (.stack .capacityTooLarge) := by
  intro limits
  have hsensible : limits.Sensible := ⟨by decide, by decide⟩
  exact ⟨validate_limits hsensible, _, rfl, rfl⟩

end DeskCalculator
