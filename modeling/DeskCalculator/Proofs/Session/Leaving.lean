import DeskCalculator.Proofs.Containment
import DeskCalculator.Proofs.Token.Joining

/-!
# Leaving a conversation

A user leaves with an exit word, and it is looked for in two ways: among the tokens of a line, and
where there are none, among its words.  Both find the same, since the tokens of a line that are words
are the words of the line.

* `words_append_of_not_isWordStart`, `words_append_of_isIdentifier` — the words of a text piece by
  piece.
* `Scans.words_eq` — what is read of a line has the words that its tokens are.
* `Answered` — what the reply to a line can be; `answered_answerLine` says that there is nothing else.
* `goesOn_eq_false_iff` — a conversation ends with the lines that mention an exit word.
* `exit_detectors_agree` — all of this.
-/

namespace DeskCalculator

/-! ## The words of a text -/

section Words

variable {c : Char} {w s s' : List Char} {tokens : List Token} {t : Token}

theorem words_cons_of_not_isWordStart (h : isWordStart c = false) : words (c :: s) = words s := by
  simp [words, wordsFrom, h]

/-- What holds no beginning of a word adds no words. -/
theorem words_append_of_not_isWordStart (h : ∀ c ∈ w, isWordStart c = false) :
    words (w ++ s) = words s := by
  induction w with
  | nil => rfl
  | cons c w ih =>
    obtain ⟨hc, hw⟩ := List.forall_mem_cons.1 h
    rw [List.cons_append, words_cons_of_not_isWordStart hc, ih hw]

/-- A word that is begun goes on to the first character that does not continue it. -/
theorem wordsFrom_append {begun : List Char} (hbegun : begun ≠ [])
    (hw : ∀ c ∈ w, isWordChar c = true) (hs : ∀ c ∈ s.head?, isWordChar c = false) :
    wordsFrom begun (w ++ s) = (begun.reverse ++ w) :: words s := by
  induction w generalizing begun with
  | nil =>
    cases s with
    | nil => simp [wordsFrom, words, hbegun]
    | cons c s =>
      have hc : isWordChar c = false := hs c rfl
      have hstart : isWordStart c = false := by
        rw [isWordChar, Bool.or_eq_false_iff] at hc
        exact hc.1
      rw [words_cons_of_not_isWordStart hstart]
      simp [wordsFrom, words, hbegun, hc]
  | cons c w ih =>
    obtain ⟨hc, hrest⟩ := List.forall_mem_cons.1 hw
    have hstep : wordsFrom begun (c :: (w ++ s)) = wordsFrom (c :: begun) (w ++ s) := by
      simp [wordsFrom, hbegun, hc]
    rw [List.cons_append, hstep, ih (List.cons_ne_nil _ _) hrest]
    simp

/-- A word that the rest does not continue is the first one. -/
theorem words_append_of_isIdentifier (hw : isIdentifier w = true)
    (hs : ∀ c ∈ s.head?, isWordChar c = false) : words (w ++ s) = w :: words s := by
  have hall := isWordChar_of_isIdentifier hw
  cases w with
  | nil => cases hw
  | cons c w =>
    have hstart : isWordStart c = true := by
      simp only [isIdentifier, Bool.and_eq_true] at hw
      exact hw.1
    have hstep : words (c :: (w ++ s)) = wordsFrom [c] (w ++ s) := by
      simp [words, wordsFrom, hstart]
    rw [List.cons_append, hstep,
      wordsFrom_append (List.cons_ne_nil _ _) (List.forall_mem_cons.1 hall).2 hs]
    rfl

/-- No word begins in a number or in a symbol. -/
theorem not_isWordStart_of_accepts (haccepts : t.kind.accepts t.text = true)
    (hkind : t.kind ≠ .identifier) : ∀ c ∈ t.text, isWordStart c = false := by
  intro c hc
  cases h : t.kind with
  | identifier => exact absurd h hkind
  | number =>
    rw [h] at haccepts
    rcases isDigit_or_of_isNumber haccepts c hc with hdigit | rfl
    · by_contra hstart
      have hnot := (not_of_isWordStart (by simpa using hstart)).2
      rw [hdigit] at hnot
      cases hnot
    · rfl
  | symbol =>
    rw [h] at haccepts
    obtain ⟨d, htext, hd⟩ := exists_symbolChar haccepts
    rw [htext, List.mem_singleton] at hc
    subst hc
    exact (not_of_isSymbolChar hd).2.2

/-- The tokens of a list that are words. -/
def wordTokens (tokens : List Token) : List Token := tokens.filter fun t => t.kind == .identifier

/-- What is read of a line has the words that its tokens are. -/
theorem Scans.words_eq {column column' : Nat} (h : Scans column s tokens column' s') :
    words s = (wordTokens tokens).map Token.text ++ words s' := by
  induction h with
  | done => rfl
  | blank hblank _ ih => rw [words_cons_of_not_isWordStart (not_of_isBlank hblank).2, ih]
  | @token _ t s _ tokens haccepts hmax _ ih =>
    by_cases hkind : t.kind = .identifier
    · have hidentifier : isIdentifier t.text = true := by
        rw [hkind] at haccepts
        exact haccepts
      have hend : ∀ c ∈ s.head?, isWordChar c = false := by
        unfold IsMaximal at hmax
        rw [hkind] at hmax
        exact hmax
      rw [words_append_of_isIdentifier hidentifier hend, ih]
      simp [wordTokens, hkind]
    · rw [words_append_of_not_isWordStart (not_isWordStart_of_accepts haccepts hkind), ih]
      simp [wordTokens, hkind]

/-- The words of a line that has tokens are those of its tokens that are words. -/
theorem words_of_tokenize (h : tokenize s = .ok tokens) :
    words s = (wordTokens tokens).map Token.text := by
  obtain ⟨column, hscans⟩ := tokenize_eq_ok_iff.1 h
  rw [hscans.words_eq]
  exact List.append_nil _

/-- So it mentions an exit word exactly if one of its tokens is one. -/
theorem mentionsExit_of_tokenize (h : tokenize s = .ok tokens) :
    mentionsExit s = hasExit tokens := by
  rw [mentionsExit, words_of_tokenize h, wordTokens, List.any_map, List.any_filter]
  rfl

end Words

/-! ## The reply to a line -/

/-- A listener that says nothing and never fails. -/
def Sink.IsQuiet {σ : Type} (sink : Sink σ) : Prop :=
  ∀ state n, (sink.notify state n).records = [] ∧ (sink.notify state n).failure? = none

section Reply

variable {σ : Type} {limits : StackLimits} {sink : Sink σ} {s : Session σ} {line : List Char}
  {tokens : List Token}

/-- What the parser logs is of use for finding faults only. -/
theorem level_parseRecords {α : Type} {resolve : List Char → Except Failure α} :
    ∀ r ∈ parseRecords limits resolve tokens, r.level = .debug := by
  intro r hr
  unfold parseRecords at hr
  split at hr
  · cases hr
  · rcases List.mem_cons.1 hr with rfl | hr
    · rfl
    · split at hr
      · cases hr
      · rw [List.mem_singleton] at hr
        rw [hr]

/-- With a quiet listener a session logs nothing else. -/
theorem Session.level_calculateTokens (hquiet : sink.IsQuiet) :
    ∀ r ∈ (s.calculateTokens limits sink tokens).records, r.level = .debug := by
  unfold calculateTokens
  cases evaluateTokens limits s.last? tokens with
  | error e => exact level_parseRecords
  | ok v =>
    obtain ⟨hrecords, hfailure⟩ := hquiet s.sink ⟨joinTokens tokens, v⟩
    simp only [hrecords, hfailure, Option.toList_none, List.map_nil, List.append_nil]
    exact level_parseRecords

/-- What the reply to a line can be. -/
inductive Answered (limits : StackLimits) (sink : Sink σ) (s : Session σ) (line : List Char) :
    LineReply σ → Prop
  /-- Nothing, after an exit word. -/
  | exit : mentionsExit line = true →
      Answered limits sink s line { session := s, goesOn := .ok false }
  /-- Nothing, and the conversation goes on. -/
  | blank : mentionsExit line = false → tokenize line = .ok [] →
      Answered limits sink s line { session := s, goesOn := .ok true }
  /-- A result. -/
  | value {v : Float} {session : Session σ} {records : List LogRecord} :
      mentionsExit line = false → tokenize line ≠ .ok [] →
      evaluateLine limits s.last? line = .ok v → session.last? = some v →
      (sink.IsQuiet → ∀ r ∈ records, r.level = .debug) →
      Answered limits sink s line
        { session, goesOn := .ok true, output := resultLine v, records }
  /-- What is said of a failure. -/
  | failure {e : Failure} {records : List LogRecord} :
      mentionsExit line = false → tokenize line ≠ .ok [] →
      evaluateLine limits s.last? line = .error e →
      (sink.IsQuiet → ∀ r ∈ records, r.level = .debug) →
      Answered limits sink s line (.ofFailure s e records)

/-- The reply to a line with tokens and no exit word is that of the session to the tokens. -/
theorem answered_tokens (hexit : mentionsExit line = false) (htokens : tokenize line = .ok tokens)
    (hne : tokens ≠ []) :
    Answered limits sink s line
      (let step := s.calculateTokens limits sink tokens
      match step.outcome with
      | .ok result =>
        { session := step.session, goesOn := .ok true,
          output := resultLine result.value, records := step.records }
      | .error e => .ofFailure step.session e step.records) := by
  have hnot : tokenize line ≠ .ok [] := by
    rw [htokens]
    simpa using hne
  have hvalue := evaluateLine_of_tokenize htokens limits s.last?
  have hlevel : sink.IsQuiet →
      ∀ r ∈ (s.calculateTokens limits sink tokens).records, r.level = .debug :=
    fun hquiet => Session.level_calculateTokens hquiet
  unfold Session.calculateTokens at hlevel ⊢
  cases h : evaluateTokens limits s.last? tokens with
  | error e =>
    simp only [h] at hlevel ⊢
    exact .failure hexit hnot (by rw [hvalue, h]) hlevel
  | ok v =>
    simp only [h] at hlevel ⊢
    exact .value hexit hnot (by rw [hvalue, h]) rfl hlevel

/-- There is no other reply. -/
theorem answered_answerLine (limits : StackLimits) (sink : Sink σ) (s : Session σ)
    (line : List Char) : Answered limits sink s line (answerLine limits sink s line) := by
  unfold answerLine
  cases htokens : tokenize line with
  | error e =>
    by_cases hexit : mentionsExit line = true
    · simp only [if_pos hexit]
      exact .exit hexit
    · simp only [if_neg hexit]
      have hvalue := evaluateLine_of_tokenize_error htokens limits s.last?
      exact .failure (by simpa using hexit) (by simp [htokens]) hvalue (by simp)
  | ok tokens =>
    have hmentions := mentionsExit_of_tokenize htokens
    by_cases hexit : hasExit tokens = true
    · simp only [if_pos hexit]
      exact .exit (hmentions.trans hexit)
    · have hnone : mentionsExit line = false := by
        rw [hmentions]
        simpa using hexit
      simp only [if_neg hexit]
      by_cases hnil : tokens = []
      · subst hnil
        exact .blank hnone htokens
      · rw [if_neg (by simpa using hnil)]
        exact answered_tokens hnone htokens hnil

/-- A failure does not end a conversation as an exit word does. -/
theorem goesOn_ofFailure_ne_false (e : Failure) (records : List LogRecord) :
    (LineReply.ofFailure s e records).goesOn ≠ .ok false := by
  unfold LineReply.ofFailure
  split
  · simp
  · simp

/-- A line with an exit word is answered by nothing. -/
theorem answerLine_of_mentionsExit (limits : StackLimits) (sink : Sink σ) (s : Session σ)
    (h : mentionsExit line = true) :
    answerLine limits sink s line = { session := s, goesOn := .ok false } := by
  have hanswered := answered_answerLine limits sink s line
  generalize answerLine limits sink s line = reply at hanswered
  cases hanswered with
  | exit => rfl
  | blank hnone _ | value hnone _ _ _ _ | failure hnone _ _ _ =>
    rw [h] at hnone
    cases hnone

/-- A conversation ends with the lines that mention an exit word. -/
theorem goesOn_eq_false_iff (limits : StackLimits) (sink : Sink σ) (s : Session σ)
    (line : List Char) :
    (answerLine limits sink s line).goesOn = .ok false ↔ mentionsExit line = true := by
  constructor
  · intro h
    have hanswered := answered_answerLine limits sink s line
    generalize answerLine limits sink s line = reply at hanswered h
    cases hanswered with
    | exit hexit => exact hexit
    | blank | value => cases h
    | failure => exact absurd h (goesOn_ofFailure_ne_false _ _)
  · intro h
    rw [answerLine_of_mentionsExit limits sink s h]

end Reply

/-- **The two ways to find an exit word agree.**  The words of a line that has tokens are the texts
of its word tokens, in order, so it mentions an exit word if and only if one of them is one.  With
stacks of any limits and whatever listens, a line ends the conversation if and only if it mentions
an exit word, whether it has tokens or not; it is then answered by nothing, nothing is logged and
the session is as it was. -/
theorem exit_detectors_agree (line : List Char) :
    (∀ tokens, tokenize line = .ok tokens →
        words line = (wordTokens tokens).map Token.text ∧ mentionsExit line = hasExit tokens) ∧
      ∀ (σ : Type) (limits : StackLimits) (sink : Sink σ) (s : Session σ),
        ((answerLine limits sink s line).goesOn = .ok false ↔ mentionsExit line = true) ∧
          (mentionsExit line = true → (answerLine limits sink s line).session = s ∧
            (answerLine limits sink s line).output = [] ∧
            (answerLine limits sink s line).complaints = [] ∧
            (answerLine limits sink s line).records = []) := by
  refine ⟨fun tokens h => ⟨words_of_tokenize h, mentionsExit_of_tokenize h⟩, ?_⟩
  intro σ limits sink s
  refine ⟨goesOn_eq_false_iff limits sink s line, fun h => ?_⟩
  rw [answerLine_of_mentionsExit limits sink s h]
  exact ⟨rfl, rfl, rfl, rfl⟩

/-- The theorem at `2.5exit1 + Quit`, where only the second word ends the conversation, and at
`12quit$`, which has no tokens. -/
theorem exit_detectors_agree_glued :
    let line := "2.5exit1 + Quit".toList
    let tokens : List Token :=
      [⟨.number, "2.5".toList, 0⟩, ⟨.identifier, "exit1".toList, 3⟩, ⟨.symbol, ['+'], 9⟩,
        ⟨.identifier, "Quit".toList, 11⟩]
    let broken := "12quit$".toList
    let s : Session (List Notification) := ⟨some 7.0, []⟩
    (tokenize line = .ok tokens ∧ words line = (wordTokens tokens).map Token.text ∧
        mentionsExit line = hasExit tokens) ∧
      tokenize broken = .error ⟨'$', 6⟩ ∧ mentionsExit broken = true ∧
      (answerLine {} .recording s broken).goesOn = .ok false ∧
      (answerLine {} .recording s broken).session = s := by
  intro line tokens broken s
  have htokens : tokenize line = .ok tokens := rfl
  have hmentions : mentionsExit broken = true := rfl
  obtain ⟨hgoesOn, hsilent⟩ := (exit_detectors_agree broken).2 _ {} Sink.recording s
  exact ⟨⟨htokens, (exit_detectors_agree line).1 tokens htokens⟩, rfl, hmentions,
    hgoesOn.2 hmentions, (hsilent hmentions).1⟩

end DeskCalculator
