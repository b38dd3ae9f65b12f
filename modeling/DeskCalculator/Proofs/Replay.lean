import DeskCalculator.Proofs.Containment
import DeskCalculator.Proofs.Parser.Vocabulary
import DeskCalculator.Proofs.Parser.WellFormed
import DeskCalculator.Proofs.Token.Joining

/-!
# Calculating a recorded expression again

A calculation records the texts of its tokens put together.  This is a line with the same value if
no two of the tokens run into each other, and no line at all if some do: fewer tokens are found in
it, but the same operations, so they can no longer have one operand more than operations.

* `joinTokens_of_tokenize` — the recorded expression is the line without its blanks.
* `symbols_joinTokens` — it shows which symbols were read.
* `length_eq_of_tokenize_joinTokens` — and how many tokens, if it gives a tree as well.
* `FactorsApart.runsApart` — tokens in the usual order do not run into each other.
* `recorded_expression_replays` — when the recorded expression can be calculated again.
-/

namespace DeskCalculator

/-! ## What a recorded expression shows -/

section Shown

variable {last? : Option Float} {t : Token} {tokens found : List Token} {line s s' : List Char}

/-- No text of a class has a blank in it. -/
theorem not_isBlank_of_accepts (h : t.kind.accepts t.text = true) :
    ∀ c ∈ t.text, isBlank c = false := by
  obtain ⟨kind, text, position⟩ := t
  intro c hc
  cases kind with
  | number => exact not_isBlank_of_isNumber h c hc
  | identifier =>
    rcases Bool.or_eq_true_iff.1 (isWordChar_of_isIdentifier h c hc) with hstart | hdigit
    · exact (not_of_isWordStart hstart).1
    · exact not_isBlank_of_isDigit hdigit
  | symbol =>
    obtain ⟨e, rfl, he⟩ := exists_symbolChar h
    rw [List.mem_singleton.1 hc]
    exact (not_of_isSymbolChar he).1

/-- What is read to the end is the text of its tokens and blanks. -/
theorem Scans.joinTokens_eq {column column' : Nat} (h : Scans column s found column' s')
    (hend : s' = []) : joinTokens found = s.filter fun c => !isBlank c := by
  induction h with
  | done =>
    subst hend
    rfl
  | blank hc _ ih => rw [List.filter_cons_of_neg (by simp [hc]), ih hend]
  | @token _ t rest _ _ haccepts _ _ ih =>
    have htext : t.text.filter (fun c => !isBlank c) = t.text :=
      List.filter_eq_self.2 fun c hc => by simp [not_isBlank_of_accepts haccepts c hc]
    rw [List.filter_append, htext, joinTokens_cons, ih hend]

/-- The texts of the tokens of a line, put together, are the line without its blanks. -/
theorem joinTokens_of_tokenize (h : tokenize line = .ok tokens) :
    joinTokens tokens = line.filter fun c => !isBlank c := by
  obtain ⟨column, hscans⟩ := tokenize_eq_ok_iff.1 h
  exact hscans.joinTokens_eq rfl

/-- Reading them again loses nothing of them. -/
theorem joinTokens_of_rejoined (haccepts : ∀ t ∈ tokens, t.kind.accepts t.text = true)
    (h : tokenize (joinTokens tokens) = .ok found) : joinTokens found = joinTokens tokens := by
  rw [joinTokens_of_tokenize h, List.filter_eq_self]
  intro c hc
  obtain ⟨t, ht, hct⟩ := List.mem_flatMap.1 hc
  simp [not_isBlank_of_accepts (haccepts t ht) c hct]

/-- A number or a word that can be read is an operand. -/
theorem isOperand_of_readable (haccepts : t.kind.accepts t.text = true)
    (hread : t.Readable (resolve last?)) (hkind : t.kind ≠ .symbol) : t.isOperand = true := by
  rcases hread with ⟨hop, -⟩ | ⟨x, hx⟩
  · exact hop
  · -- what writes a symbol begins no number and no word
    have htext := Symbol.ofText?_eq_some_iff.1 (Token.ofText_of_symbol hx)
    obtain ⟨c, w, hw, hc⟩ := exists_begins haccepts
    rw [htext] at hw
    cases hw
    have hsymbol : TokenKind.symbol.begins x.char = true := x.isSymbolChar_char
    exact absurd (TokenKind.eq_of_begins hc hsymbol) hkind

/-- An operand has no character of a symbol in it. -/
theorem not_isSymbolChar_of_accepts (haccepts : t.kind.accepts t.text = true)
    (hop : t.isOperand = true) : ∀ c ∈ t.text, isSymbolChar c = false := by
  obtain ⟨kind, text, position⟩ := t
  intro c hc
  rw [← Bool.not_eq_true]
  intro hsymbol
  cases kind with
  | number =>
    rcases isDigit_or_of_isNumber haccepts c hc with hdigit | rfl
    · rw [(not_of_isSymbolChar hsymbol).2.1] at hdigit
      cases hdigit
    · exact absurd hsymbol (by decide)
  | identifier =>
    have hword := isWordChar_of_isIdentifier haccepts c hc
    rw [not_isWordChar_of_isSymbolChar hsymbol] at hword
    cases hword
  | symbol => cases hop

/-- The symbols of tokens that can be read show in their texts put together. -/
theorem symbols_joinTokens (haccepts : ∀ t ∈ tokens, t.kind.accepts t.text = true)
    (hread : ∀ t ∈ tokens, t.Readable (resolve last?)) :
    (tokens.filterMap Token.symbol?).map Symbol.char = (joinTokens tokens).filter isSymbolChar := by
  induction tokens with
  | nil => rfl
  | cons t rest ih =>
    obtain ⟨ht, hrest⟩ := List.forall_mem_cons.1 haccepts
    obtain ⟨htread, hrestread⟩ := List.forall_mem_cons.1 hread
    rw [joinTokens_cons, List.filter_append, ← ih hrest hrestread]
    rcases htread with ⟨hop, -⟩ | ⟨x, hx⟩
    · have hnone : t.text.filter isSymbolChar = [] :=
        List.filter_eq_nil_iff.2 fun c hc => by simp [not_isSymbolChar_of_accepts ht hop c hc]
      rw [List.filterMap_cons_none (Token.symbol_of_isOperand hop), hnone, List.nil_append]
    · have htext := Symbol.ofText?_eq_some_iff.1 (Token.ofText_of_symbol hx)
      rw [List.filterMap_cons_some hx, htext, List.filter_cons_of_pos x.isSymbolChar_char]
      rfl

theorem Symbol.char_injective : Function.Injective Symbol.char := by
  intro x y h
  have hy : Symbol.ofText? [x.char] = some y := Symbol.ofText?_eq_some_iff.2 (by rw [h])
  rw [Symbol.ofText?_eq_some_iff.2 rfl] at hy
  exact Option.some.inj hy

/-- The operations are the symbols that are no brackets. -/
theorem length_operationsOf (tokens : List Token) :
    (operationsOf tokens).length =
      ((tokens.filterMap Token.symbol?).filter fun x => !x.isBracket).length := by
  rw [← map_operationsOf, List.length_map]

/-- If the texts put together give a tree as the tokens did, as many tokens were found in them. -/
theorem length_eq_of_tokenize_joinTokens {e e' : Expr Float}
    (haccepts : ∀ t ∈ tokens, t.kind.accepts t.text = true)
    (hparse : parseUnbounded (resolve last?) tokens = .ok e)
    (hfound : tokenize (joinTokens tokens) = .ok found)
    (hparse' : parseUnbounded (resolve last?) found = .ok e') : found.length = tokens.length := by
  have hread := readable_of_parseUnbounded hparse
  have hread' := readable_of_parseUnbounded hparse'
  -- the same symbols are read both times
  have hsymbols : found.filterMap Token.symbol? = tokens.filterMap Token.symbol? := by
    refine Symbol.char_injective.list_map ?_
    rw [symbols_joinTokens haccepts hread,
      symbols_joinTokens (accepts_of_tokenize hfound) hread', joinTokens_of_rejoined haccepts hfound]
  -- and a tree has one operand more than operations
  have hcount := (balanced_of_parseUnbounded hparse).2
  have hcount' := (balanced_of_parseUnbounded hparse').2
  rw [length_operationsOf] at hcount hcount'
  rw [length_eq_of_readable hread, length_eq_of_readable hread', hcount, hcount', hsymbols]

end Shown

/-! ## Accepted tokens -/

section Accepted

variable {last? : Option Float} {t : Token} {tokens : List Token}

/-- The only word of a list that gives a tree has no digit in it. -/
theorem isWordStart_of_readable (haccepts : t.kind.accepts t.text = true)
    (hread : t.Readable (resolve last?)) (hkind : t.kind = .identifier) :
    ∀ c ∈ t.text, isWordStart c = true := by
  have hop := isOperand_of_readable haccepts hread (by simp [hkind])
  have hanswer : isAnswerWord t.text = true := by
    simpa [Token.isOperand, Token.isAnswer, hkind] using hop
  intro c hc
  rw [isWordStart, isLetter_of_isAnswerWord hanswer c hc, Bool.true_or]

/-- Where no factor follows a factor, no token runs into the next one. -/
theorem FactorsApart.runsApart (h : FactorsApart tokens)
    (haccepts : ∀ t ∈ tokens, t.kind.accepts t.text = true)
    (hread : ∀ t ∈ tokens, t.Readable (resolve last?)) : RunsApart tokens := by
  refine h.imp_of_mem_imp fun _ _ ht hu hfactors hruns => ?_
  refine hfactors
    ⟨.inl (isOperand_of_readable (haccepts _ ht) (hread _ ht) ?_),
      .inl (isOperand_of_readable (haccepts _ hu) (hread _ hu) ?_)⟩
  · rcases hruns with ⟨hkind, -⟩ | ⟨hkind, -⟩ <;> simp [hkind]
  · rcases hruns with ⟨-, hkind⟩ | ⟨-, hkind⟩ <;> simp [hkind]

end Accepted

/-! ## Columns -/

section Columns

variable {α : Type} {tokens found : List Token}

/-- What a list of tokens gives does not depend on their columns. -/
theorem parse_unplaced (limits : StackLimits) (resolve : List Char → Except Failure α)
    (tokens : List Token) :
    parse limits resolve (tokens.map Token.unplaced) = parse limits resolve tokens := by
  have hstep : ∀ (st : ParseState α) (t : Token), st.step resolve t.unplaced = st.step resolve t :=
    fun _ _ => rfl
  simp only [parse, readTokens, List.isEmpty_map, List.foldlM_map, hstep]

/-- So neither does what they stand for. -/
theorem evaluateTokens_of_map_unplaced (limits : StackLimits) (last? : Option Float)
    (h : found.map Token.unplaced = tokens.map Token.unplaced) :
    evaluateTokens limits last? found = evaluateTokens limits last? tokens := by
  unfold evaluateTokens parseTokens
  rw [← parse_unplaced, h, parse_unplaced]

end Columns

/-! ## The recorded expression -/

section Recorded

variable {σ : Type} {limits limits' : StackLimits} {sink : Sink σ} {s : Session σ}
  {last? : Option Float} {line : List Char} {tokens : List Token} {evaluation : Evaluation}
  {v : Float}

/-- What a successful calculation reports: the tokens of its line, their texts put together and
their value. -/
theorem Session.calculate_eq_ok_iff :
    (s.calculate limits sink line).outcome = .ok evaluation ↔
      tokenize line = .ok evaluation.tokens ∧
        evaluateTokens limits s.last? evaluation.tokens = .ok evaluation.value ∧
        evaluation.expression = joinTokens evaluation.tokens := by
  obtain ⟨expression, value, reported⟩ := evaluation
  unfold calculate tokensOf
  cases htokens : tokenize line with
  | error e => simp
  | ok tokens =>
    simp only [calculateTokens, Except.ok.injEq]
    cases hvalue : evaluateTokens limits s.last? tokens with
    | error e =>
      constructor
      · intro h
        cases h
      · rintro ⟨rfl, h, -⟩
        rw [hvalue] at h
        cases h
    | ok v =>
      constructor
      · intro h
        cases h
        exact ⟨rfl, hvalue, rfl⟩
      · rintro ⟨rfl, h, rfl⟩
        rw [hvalue] at h
        cases h
        rfl

/-- Tokens that run apart stand for the same number when their texts are put together. -/
theorem evaluateLine_joinTokens (haccepts : ∀ t ∈ tokens, t.kind.accepts t.text = true)
    (hapart : RunsApart tokens) :
    evaluateLine limits last? (joinTokens tokens) = evaluateTokens limits last? tokens := by
  rw [evaluateLine_of_tokenize (tokenize_joinTokens haccepts hapart)]
  exact evaluateTokens_of_map_unplaced limits last? (map_unplaced_packed 0 tokens)

/-- Tokens that run into each other stand for nothing when their texts are put together. -/
theorem runsApart_of_evaluateLine {v' : Float}
    (haccepts : ∀ t ∈ tokens, t.kind.accepts t.text = true)
    (hvalue : evaluateTokens limits last? tokens = .ok v)
    (hvalue' : evaluateLine limits' last? (joinTokens tokens) = .ok v') : RunsApart tokens := by
  obtain ⟨e, hparse⟩ := parseUnbounded_of_evaluateTokens hvalue
  have hread := readable_of_parseUnbounded hparse
  cases hfound : tokenize (joinTokens tokens) with
  | error failure =>
    rw [evaluateLine_of_tokenize_error hfound] at hvalue'
    cases hvalue'
  | ok found =>
    rw [evaluateLine_of_tokenize hfound] at hvalue'
    obtain ⟨e', hparse'⟩ := parseUnbounded_of_evaluateTokens hvalue'
    obtain ⟨column, hscans⟩ := tokenize_eq_ok_iff.1 hfound
    have hplain : ∀ t ∈ tokens, t.kind = .identifier → ∀ c ∈ t.text, isWordStart c = true :=
      fun t ht => isWordStart_of_readable (haccepts t ht) (hread t ht)
    exact (hscans.length_le_of_joined rfl haccepts hplain rfl).2
      (length_eq_of_tokenize_joinTokens haccepts hparse hfound hparse')

/-- Other limits do not matter to a line that is short enough for the default ones. -/
theorem evaluateTokens_default (h : evaluateTokens limits last? tokens = .ok v)
    (hlength : tokens.length < largestCapacity - 32) : evaluateTokens {} last? tokens = .ok v := by
  rw [evaluateTokens_eq] at h ⊢
  obtain ⟨e, he, rfl⟩ := map_eq_ok.1 h
  rw [parseTokens, parse_default hlength, parseUnbounded_of_parse he, map_ok]

end Recorded

/-- **When a recorded expression replays.**  Whatever listens to a session and whatever its previous
result is: if a calculation succeeds and no two of its tokens run into each other, its recorded
expression stands for the same double, under the same limits and under the default ones.  Tokens in
the usual order never run into each other.  If some do, the recorded expression stands for nothing
at all under any limits, and never for another number. -/
theorem recorded_expression_replays {σ : Type} {limits : StackLimits} {sink : Sink σ}
    {s : Session σ} {line : List Char} {evaluation : Evaluation}
    (h : (s.calculate limits sink line).outcome = .ok evaluation) :
    (RunsApart evaluation.tokens →
        evaluateLine limits s.last? evaluation.expression = .ok evaluation.value ∧
          (line.length < largestCapacity - 32 →
            evaluateLine {} s.last? evaluation.expression = .ok evaluation.value)) ∧
      (∀ tree, Writes (resolve s.last?) .sum evaluation.tokens tree →
        RunsApart evaluation.tokens) ∧
      (¬ RunsApart evaluation.tokens →
        ∀ limits', ∃ e, evaluateLine limits' s.last? evaluation.expression = .error e) := by
  obtain ⟨htokens, hvalue, hexpression⟩ := Session.calculate_eq_ok_iff.1 h
  have haccepts := accepts_of_tokenize htokens
  obtain ⟨e, hparse⟩ := parseUnbounded_of_evaluateTokens hvalue
  rw [hexpression]
  refine ⟨fun hapart => ⟨?_, fun hlength => ?_⟩, fun tree hwrites => ?_, fun hnot limits' => ?_⟩
  · rw [evaluateLine_joinTokens haccepts hapart, hvalue]
  · rw [evaluateLine_joinTokens haccepts hapart]
    exact evaluateTokens_default hvalue
      (Nat.lt_of_le_of_lt (length_le_of_tokenize htokens) hlength)
  · exact hwrites.factorsApart.runsApart haccepts (readable_of_parseUnbounded hparse)
  · cases hreplay : evaluateLine limits' s.last? (joinTokens evaluation.tokens) with
    | error failure => exact ⟨failure, rfl⟩
    | ok v' => exact absurd (runsApart_of_evaluateLine haccepts hvalue hreplay) hnot

/-- The theorem at `( ans - 2 ) 3 *`, where the operation stands behind both its sides and nothing
is lost without the blanks. -/
theorem recorded_expression_replays_postfix :
    let s : Session Unit := ⟨some 5.0, ()⟩
    ∃ evaluation, (s.calculate {} .silent "( ans - 2 ) 3 *".toList).outcome = .ok evaluation ∧
      evaluation.expression = "(ans-2)3*".toList ∧ RunsApart evaluation.tokens ∧
      evaluateLine {} s.last? "(ans-2)3*".toList = .ok evaluation.value := by
  intro s
  obtain ⟨tokens, htokens⟩ : ∃ tokens, tokenize "( ans - 2 ) 3 *".toList = .ok tokens := ⟨_, rfl⟩
  obtain ⟨v, hv⟩ : ∃ v, evaluateTokens {} s.last? tokens = .ok v := by
    cases htokens
    exact ⟨_, evaluateTokens_eq {} s.last? _⟩
  have hapart : RunsApart tokens := by
    cases htokens
    simp [RunsApart, Token.RunsInto]
  have hexpression : joinTokens tokens = "(ans-2)3*".toList := by
    cases htokens
    rfl
  have hevaluation : (s.calculate {} .silent "( ans - 2 ) 3 *".toList).outcome =
      .ok ⟨joinTokens tokens, v, tokens⟩ := Session.calculate_eq_ok_iff.2 ⟨htokens, hv, rfl⟩
  have hreplay := ((recorded_expression_replays hevaluation).1 hapart).1
  rw [hexpression] at hreplay
  exact ⟨_, hevaluation, hexpression, hapart, hreplay⟩

/-- A calculation whose recorded expression does not replay: from `1 2 +` the two numbers are
recorded as one. -/
theorem recorded_expression_not_replayed :
    let s : Session Unit := ⟨none, ()⟩
    ∃ evaluation, (s.calculate {} .silent "1 2 +".toList).outcome = .ok evaluation ∧
      evaluation.expression = "12+".toList ∧
      evaluateLine {} s.last? evaluation.expression =
        .error (.missingOperandOf (.operation .sum)) := by
  intro s
  obtain ⟨tokens, htokens⟩ : ∃ tokens, tokenize "1 2 +".toList = .ok tokens := ⟨_, rfl⟩
  obtain ⟨v, hv⟩ : ∃ v, evaluateTokens {} s.last? tokens = .ok v := by
    cases htokens
    exact ⟨_, evaluateTokens_eq {} s.last? _⟩
  refine ⟨⟨joinTokens tokens, v, tokens⟩, Session.calculate_eq_ok_iff.2 ⟨htokens, hv, rfl⟩, ?_, ?_⟩
  · cases htokens
    rfl
  · cases htokens
    rfl

end DeskCalculator
