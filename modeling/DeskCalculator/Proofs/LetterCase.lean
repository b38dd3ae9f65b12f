import DeskCalculator.Proofs.Parser.Vocabulary
import DeskCalculator.Proofs.Session.Leaving
import DeskCalculator.Proofs.Token.Stopping

/-!
# Letter case

Letters begin words and continue them in either case, and the words with a meaning are compared in
lower case.  So a line in lower case has the same tokens, but for the case of their texts, comes to
the same number or the same kind of failure, and gets the same reply.

* `tokenize_lowered` — the tokens of a line in lower case, or the character at which it fails.
* `words_lowered` — its words, which are looked at where there are no tokens.
* `evaluateLine_lowered` — what it stands for, or the kind of its failure.
* `answerLine_leaves` — what a reply leaves behind depends on nothing else.
* `letter_case_never_matters` — so two lines that are the same in lower case are read alike, stand
  for the same and are answered alike.
-/

namespace DeskCalculator

variable {c : Char} {s s' w line line' : List Char} {t : Token} {tokens : List Token}

/-! ## Classes of characters -/

theorem isWordStart_of_isLetter (h : isLetter c = true) : isWordStart c = true := by
  rw [isWordStart, h, Bool.true_or]

theorem isBlank_toLower (c : Char) : isBlank c.toLower = isBlank c :=
  apply_toLower isBlank (fun _ h => (not_of_isWordStart (isWordStart_of_isLetter h)).1) c

theorem isDigit_toLower (c : Char) : isDigit c.toLower = isDigit c :=
  apply_toLower isDigit (fun _ h => (not_of_isWordStart (isWordStart_of_isLetter h)).2) c

theorem isWordStart_toLower (c : Char) : isWordStart c.toLower = isWordStart c :=
  apply_toLower isWordStart (fun _ h => isWordStart_of_isLetter h) c

theorem isWordChar_toLower (c : Char) : isWordChar c.toLower = isWordChar c := by
  rw [isWordChar, isWordStart_toLower, isDigit_toLower, isWordChar]

theorem isSymbolChar_toLower (c : Char) : isSymbolChar c.toLower = isSymbolChar c := by
  refine apply_toLower isSymbolChar (b := false) (fun d hd => ?_) c
  rw [← Bool.not_eq_true]
  intro hsymbol
  have hword := isWordStart_of_isLetter hd
  rw [(not_of_isSymbolChar hsymbol).2.2] at hword
  cases hword

theorem toLower_eq_point_iff : c.toLower = '.' ↔ c = '.' := by
  have hpoint : (c.toLower == '.') = (c == '.') := by
    refine apply_toLower (· == '.') (fun d hd => beq_eq_false_iff_ne.2 ?_) c
    rintro rfl
    exact absurd hd (by decide)
  rw [← beq_iff_eq, hpoint, beq_iff_eq]

/-- A character that begins no word is no letter. -/
theorem toLower_of_not_isWordStart (h : isWordStart c = false) : c.toLower = c := by
  refine toLower_eq_self ?_
  rw [isWordStart, Bool.or_eq_false_iff] at h
  exact h.1

theorem toLower_of_isSymbolChar (h : isSymbolChar c = true) : c.toLower = c :=
  toLower_of_not_isWordStart (not_of_isSymbolChar h).2.2

theorem toLower_of_isStray (h : isStray c = true) : c.toLower = c := by
  refine toLower_of_not_isWordStart ?_
  simp only [isStray, Bool.not_eq_true', Bool.or_eq_false_iff] at h
  exact h.1.2

/-! ## Texts of a class -/

theorem isIdentifier_lowered (s : List Char) : isIdentifier (lowered s) = isIdentifier s := by
  cases s with
  | nil => rfl
  | cons c s =>
    have hrest : (lowered s).all isWordChar = s.all isWordChar := by
      simp [lowered, List.all_map, Function.comp_def, isWordChar_toLower]
    show (isWordStart c.toLower && (lowered s).all isWordChar) = _
    rw [isWordStart_toLower, hrest]
    rfl

theorem lowered_eq_self (h : ∀ c ∈ s, c.toLower = c) : lowered s = s :=
  (List.map_congr_left h).trans (List.map_id s)

theorem lowered_of_isNumber (h : isNumber s = true) : lowered s = s := by
  refine lowered_eq_self fun c hc => ?_
  rcases isDigit_or_of_isNumber h c hc with hdigit | rfl
  · exact toLower_of_isDigit hdigit
  · rfl

/-- A text with letters in it is no number in lower case either. -/
theorem isNumber_lowered (s : List Char) : isNumber (lowered s) = isNumber s := by
  rw [Bool.eq_iff_iff]
  constructor
  · intro h
    -- what became a digit or a point was no letter
    have hsame : lowered s = s := by
      refine lowered_eq_self fun c hc => ?_
      rcases isDigit_or_of_isNumber h _ (List.mem_map_of_mem hc) with hdigit | hpoint
      · exact toLower_of_isDigit (by rwa [← isDigit_toLower])
      · rw [hpoint, toLower_eq_point_iff.1 hpoint]
    rwa [hsame] at h
  · intro h
    rwa [lowered_of_isNumber h]

theorem Symbol.ofText?_lowered (s : List Char) : ofText? (lowered s) = ofText? s := by
  refine Option.ext fun x => ?_
  rw [ofText?_eq_some_iff, ofText?_eq_some_iff]
  have hchar := toLower_of_isSymbolChar x.isSymbolChar_char
  constructor
  · intro h
    obtain ⟨c, rfl, hc⟩ := List.map_eq_singleton_iff.1 h
    -- only a letter could become another character, and then a small letter
    have hsymbol : isSymbolChar c = true := by
      rw [← isSymbolChar_toLower, hc]
      exact x.isSymbolChar_char
    rw [← hc, toLower_of_isSymbolChar hsymbol]
  · rintro rfl
    exact congrArg (fun c => [c]) hchar

theorem accepts_lowered {kind : TokenKind} (h : kind.accepts w = true) :
    kind.accepts (lowered w) = true := by
  cases kind with
  | number =>
    show isNumber (lowered w) = true
    rwa [isNumber_lowered]
  | identifier =>
    show isIdentifier (lowered w) = true
    rwa [isIdentifier_lowered]
  | symbol =>
    obtain ⟨c, rfl, hc⟩ := exists_symbolChar h
    show isSymbolChar c.toLower = true
    rwa [toLower_of_isSymbolChar hc]

/-! ## Tokens -/

/-- The token with its text in lower case. -/
def Token.lowered (t : Token) : Token := { t with text := DeskCalculator.lowered t.text }

theorem Token.lowered_of_isNumber (h : isNumber w = true) (position : Nat) :
    lowered ⟨.number, w, position⟩ = ⟨.number, w, position⟩ := by
  rw [lowered, DeskCalculator.lowered_of_isNumber h]

/-- Lower case continues no token that was not continued. -/
theorem IsMaximal.lowered (haccepts : t.kind.accepts t.text = true) (h : IsMaximal t s) :
    IsMaximal t.lowered (lowered s) := by
  obtain ⟨kind, text, position⟩ := t
  cases s with
  | nil => exact isMaximal_nil
  | cons c s =>
    cases kind with
    | number =>
      rw [Token.lowered_of_isNumber haccepts]
      obtain ⟨hdigit, hpoint⟩ := h
      refine ⟨?_, fun hwhole hc => ?_⟩
      · simpa [lowered, isDigit_toLower] using hdigit
      · have hbehind := hpoint hwhole (by simpa [lowered, toLower_eq_point_iff] using hc)
        simpa [lowered, isDigit_toLower] using hbehind
    | identifier => simpa [IsMaximal, Token.lowered, lowered, isWordChar_toLower] using h
    | symbol => trivial

/-- What is read of a text is read of it in lower case. -/
theorem Scans.lowered {column column' : Nat} (h : Scans column s tokens column' s') :
    Scans column (lowered s) (tokens.map Token.lowered) column' (lowered s') := by
  induction h with
  | done => exact .done
  | blank hc _ ih => exact .blank (by rwa [isBlank_toLower]) ih
  | @token column' t s s' tokens haccepts hmax _ ih =>
    have hstop : t.lowered.stop = t.stop :=
      congrArg (t.position + ·) (List.length_map Char.toLower)
    rw [lowered_append]
    rw [← hstop] at ih
    exact .token (t := t.lowered) (accepts_lowered haccepts) (hmax.lowered haccepts) ih

/-- **A line in lower case** has the tokens of the line in lower case, or fails at the same
character. -/
theorem tokenize_lowered (line : List Char) :
    tokenize (lowered line) = (tokenize line).map (List.map Token.lowered) := by
  cases h : tokenize line with
  | ok tokens =>
    obtain ⟨column, hscans⟩ := tokenize_eq_ok_iff.1 h
    exact tokenize_eq_ok_iff.2 ⟨column, hscans.lowered⟩
  | error e =>
    obtain ⟨front, tokens, rest, rfl, hcolumn, hscans, hstray⟩ := tokenize_eq_error_iff.1 h
    have hlowered : lowered (e.found :: rest) = e.found :: lowered rest :=
      congrArg (fun c => c :: lowered rest) (toLower_of_isStray hstray)
    have hlength : (lowered front).length = front.length := List.length_map _
    have hagain := hscans.lowered
    rw [lowered_append, hlowered] at hagain
    rw [← hlength] at hcolumn hagain
    rw [lowered_append, hlowered]
    exact tokenize_eq_error_iff.2
      ⟨lowered front, _, lowered rest, rfl, hcolumn, hagain, hstray⟩

/-- What there is to a token apart from its text: its class, its column and what it is used for. -/
structure TokenTraits where
  kind : TokenKind
  position : Nat
  isAnswer : Bool
  isExit : Bool
  isOperand : Bool
deriving Repr, DecidableEq

/-- The traits of a token. -/
def Token.traits (t : Token) : TokenTraits :=
  ⟨t.kind, t.position, t.isAnswer, t.isExit, t.isOperand⟩

theorem isAnswerWord_lowered (w : List Char) : isAnswerWord (lowered w) = isAnswerWord w :=
  isKeyword_lowered "ans" w

theorem isExitWord_lowered (w : List Char) : isExitWord (lowered w) = isExitWord w := by
  rw [isExitWord, isKeyword_lowered, isKeyword_lowered, isExitWord]

/-- Tokens are put to the same use in lower case. -/
theorem Token.traits_lowered (t : Token) : t.lowered.traits = t.traits := by
  have hanswer : t.lowered.isAnswer = t.isAnswer :=
    congrArg (t.kind == .identifier && ·) (isAnswerWord_lowered t.text)
  have hexit : t.lowered.isExit = t.isExit :=
    congrArg (t.kind == .identifier && ·) (isExitWord_lowered t.text)
  have hoperand : t.lowered.isOperand = t.isOperand :=
    congrArg (t.kind == .number || ·) hanswer
  rw [traits, hanswer, hexit, hoperand]
  rfl

theorem Token.isOperand_lowered (t : Token) : t.lowered.isOperand = t.isOperand :=
  congrArg TokenTraits.isOperand t.traits_lowered

theorem traits_tokenize_lowered (line : List Char) :
    (tokenize (lowered line)).map (List.map Token.traits) =
      (tokenize line).map (List.map Token.traits) := by
  rw [tokenize_lowered]
  cases tokenize line with
  | error e => rfl
  | ok tokens => simp [Function.comp_def, Token.traits_lowered]

/-! ## Words -/

theorem wordsFrom_lowered (begun s : List Char) :
    wordsFrom (lowered begun) (lowered s) = (wordsFrom begun s).map lowered := by
  induction s generalizing begun with
  | nil => cases begun <;> simp [wordsFrom, lowered]
  | cons c s ih =>
    have hstep : wordsFrom (lowered begun) (lowered (c :: s)) =
        if begun.isEmpty then wordsFrom (lowered (if isWordStart c then [c] else [])) (lowered s)
        else if isWordChar c then wordsFrom (lowered (c :: begun)) (lowered s)
        else lowered begun.reverse :: wordsFrom (lowered []) (lowered s) := by
      show wordsFrom (lowered begun) (c.toLower :: lowered s) = _
      rw [wordsFrom, isWordStart_toLower, isWordChar_toLower]
      simp only [lowered, List.isEmpty_map, List.map_reverse, apply_ite (List.map Char.toLower),
        List.map_cons, List.map_nil]
    rw [hstep, ih, ih, ih, wordsFrom]
    split_ifs <;> rfl

/-- The words of a text in lower case. -/
theorem words_lowered (s : List Char) : words (lowered s) = (words s).map lowered :=
  wordsFrom_lowered [] s

theorem mentionsExit_lowered (line : List Char) :
    mentionsExit (lowered line) = mentionsExit line := by
  rw [mentionsExit, words_lowered, List.any_map, mentionsExit]
  exact congrArg _ (funext isExitWord_lowered)

/-! ## Evaluation -/

section Evaluation

variable {α β ε ε' : Type} {last? : Option Float}

/-- A composed computation fails for the same kind of reason if both of its parts do. -/
theorem bind_mapError_congr {x x' : Except ε α} {k k' : α → Except ε β} {kind : ε → ε'}
    (hx : x'.mapError kind = x.mapError kind)
    (hk : ∀ a, (k' a).mapError kind = (k a).mapError kind) :
    (x' >>= k').mapError kind = (x >>= k).mapError kind := by
  cases x with
  | error e =>
    cases x' with
    | error e' =>
      have hkind : kind e' = kind e := by simpa [Except.mapError] using hx
      exact congrArg Except.error hkind
    | ok a' => cases hx
  | ok a =>
    cases x' with
    | error e' => cases hx
    | ok a' =>
      have hsame : a' = a := by simpa [Except.mapError] using hx
      rw [hsame]
      exact hk a

theorem resolve_lowered (last? : Option Float) (w : List Char) :
    (resolve last? (lowered w)).mapError Failure.kind =
      (resolve last? w).mapError Failure.kind := by
  unfold resolve
  rw [isAnswerWord_lowered, isNumber_lowered]
  by_cases hanswer : isAnswerWord w = true
  · rw [if_pos hanswer, if_pos hanswer]
    cases last? <;> rfl
  · rw [if_neg hanswer, if_neg hanswer]
    by_cases hnumber : isNumber w = true
    · rw [if_pos hnumber, if_pos hnumber, lowered_of_isNumber hnumber]
    · rw [if_neg hnumber, if_neg hnumber]
      rfl

theorem ParseState.step_lowered (st : ParseState Float) (t : Token) :
    (st.step (resolve last?) t.lowered).mapError Failure.kind =
      (st.step (resolve last?) t).mapError Failure.kind := by
  unfold step
  rw [Token.isOperand_lowered]
  by_cases hop : t.isOperand = true
  · rw [if_pos hop, if_pos hop]
    exact bind_mapError_congr (resolve_lowered last? t.text) fun _ => rfl
  · rw [if_neg hop, if_neg hop]
    have hsymbol : Symbol.ofText? t.lowered.text = Symbol.ofText? t.text :=
      Symbol.ofText?_lowered t.text
    rw [hsymbol]
    cases Symbol.ofText? t.text with
    | none => rfl
    | some x => cases x <;> rfl

theorem ParseState.read_lowered (st : ParseState Float) (tokens : List Token) :
    ((tokens.map Token.lowered).foldlM (step (resolve last?)) st).mapError Failure.kind =
      (tokens.foldlM (step (resolve last?)) st).mapError Failure.kind := by
  induction tokens generalizing st with
  | nil => rfl
  | cons t rest ih =>
    rw [List.map_cons, List.foldlM_cons, List.foldlM_cons]
    exact bind_mapError_congr (st.step_lowered t) ih

theorem parse_lowered (limits : StackLimits) (last? : Option Float) (tokens : List Token) :
    (parse limits (resolve last?) (tokens.map Token.lowered)).mapError Failure.kind =
      (parse limits (resolve last?) tokens).mapError Failure.kind := by
  unfold parse
  rw [List.isEmpty_map]
  split
  · rfl
  · refine bind_mapError_congr (bind_mapError_congr rfl fun st => ?_) fun _ => rfl
    exact st.read_lowered tokens

/-- **What a line stands for** does not depend on letter case, and neither does the kind of its
failure. -/
theorem evaluateLine_lowered (limits : StackLimits) (last? : Option Float) (line : List Char) :
    (evaluateLine limits last? (lowered line)).mapError Failure.kind =
      (evaluateLine limits last? line).mapError Failure.kind := by
  have hlowered := tokenize_lowered line
  cases h : tokenize line with
  | error e =>
    rw [h, map_error] at hlowered
    rw [evaluateLine_of_tokenize_error hlowered, evaluateLine_of_tokenize_error h]
  | ok tokens =>
    rw [h, map_ok] at hlowered
    rw [evaluateLine_of_tokenize hlowered, evaluateLine_of_tokenize h]
    exact bind_mapError_congr (parse_lowered limits last? tokens) fun _ => rfl

end Evaluation

/-! ## Replies -/

section Replies

variable {σ : Type}

/-- What a reply leaves behind: whether the conversation goes on, or the kind of failure that it
does not survive, and the previous result. -/
def LineReply.leaves (reply : LineReply σ) : Except FailureKind Bool × Option Float :=
  (reply.goesOn.mapError Failure.kind, reply.session.last?)

/-- What a line without an exit word leaves behind, told from its result or the kind of its
failure. -/
def leftBy (last? : Option Float) :
    Except FailureKind Float → Except FailureKind Bool × Option Float
  | .ok v => (.ok true, some v)
  | .error kind => (if kind.isRecoverable then .ok true else .error kind, last?)

theorem LineReply.leaves_ofFailure (s : Session σ) (e : Failure) (records : List LogRecord) :
    (ofFailure s e records).leaves = leftBy s.last? (.error e.kind) := by
  unfold ofFailure leaves leftBy Failure.isRecoverable
  by_cases h : e.kind.isRecoverable = true
  · simp only [if_pos h]
    rfl
  · simp only [if_neg h]
    rfl

/-- **What a reply leaves behind** depends on whether the line mentions an exit word and on what it
comes to. -/
theorem answerLine_leaves (limits : StackLimits) (sink : Sink σ) (s : Session σ)
    (line : List Char) :
    (answerLine limits sink s line).leaves =
      if mentionsExit line then (.ok false, s.last?)
      else leftBy s.last? ((evaluateLine limits s.last? line).mapError Failure.kind) := by
  have hanswered := answered_answerLine limits sink s line
  generalize answerLine limits sink s line = reply at hanswered
  cases hanswered with
  | exit hexit =>
    rw [if_pos hexit]
    rfl
  | blank hexit htokens =>
    have hvalue : evaluateLine limits s.last? line = .error .emptyExpression := by
      rw [evaluateLine_of_tokenize htokens]
      rfl
    rw [hexit, hvalue]
    rfl
  | value hexit _ hvalue hlast _ =>
    rw [hexit, hvalue]
    exact congrArg _ hlast
  | failure hexit _ hvalue _ =>
    rw [hexit, hvalue, LineReply.leaves_ofFailure]
    rfl

/-- In lower case a line leaves the same behind. -/
theorem answerLine_lowered (limits : StackLimits) (sink : Sink σ) (s : Session σ)
    (line : List Char) :
    (answerLine limits sink s (lowered line)).leaves = (answerLine limits sink s line).leaves := by
  rw [answerLine_leaves, answerLine_leaves, mentionsExit_lowered, evaluateLine_lowered]

end Replies

/-- **Letter case never matters.**  Two lines that are the same in lower case have tokens of the
same classes in the same columns and of the same use, or fail at the same character.  Whatever the
previous result is, they stand for the same number or fail for the same kind of reason, and whatever
listens to a session, it goes on after the one as after the other and with the same previous
result. -/
theorem letter_case_never_matters (h : lowered line = lowered line') :
    (tokenize line).map (List.map Token.traits) = (tokenize line').map (List.map Token.traits) ∧
      (∀ limits last?, (evaluateLine limits last? line).mapError Failure.kind =
        (evaluateLine limits last? line').mapError Failure.kind) ∧
      ∀ (σ : Type) (limits : StackLimits) (sink : Sink σ) (s : Session σ),
        (answerLine limits sink s line).leaves = (answerLine limits sink s line').leaves := by
  refine ⟨?_, fun limits last? => ?_, fun σ limits sink s => ?_⟩
  · rw [← traits_tokenize_lowered, h, traits_tokenize_lowered]
  · rw [← evaluateLine_lowered, h, evaluateLine_lowered]
  · rw [← answerLine_lowered, h, answerLine_lowered]

/-- The theorem at `4 * Ans - x1B` and `4 * aNS - X1b`, which fail for the same kind of reason, and
at `12QuIt$` and `12qUIT$`, which have no tokens and end the conversation. -/
theorem letter_case_never_matters_mixed :
    let line := "4 * Ans - x1B".toList
    let line' := "4 * aNS - X1b".toList
    let broken := "12QuIt$".toList
    let broken' := "12qUIT$".toList
    let s : Session (List Notification) := ⟨some 7.0, []⟩
    lowered line = lowered line' ∧
      (tokenize line).map (List.map Token.traits) = (tokenize line').map (List.map Token.traits) ∧
      (evaluateLine {} none line).mapError Failure.kind =
        (evaluateLine {} none line').mapError Failure.kind ∧
      lowered broken = lowered broken' ∧ tokenize broken = .error ⟨'$', 6⟩ ∧
      (answerLine {} .recording s broken').leaves = (.ok false, some 7.0) := by
  intro line line' broken broken' s
  have hlines : lowered line = lowered line' := by decide +kernel
  have hbroken : lowered broken = lowered broken' := by decide +kernel
  obtain ⟨htraits, hvalue, -⟩ := letter_case_never_matters hlines
  obtain ⟨-, -, hleaves⟩ := letter_case_never_matters hbroken
  have hexit : mentionsExit broken = true := by decide +kernel
  refine ⟨hlines, htraits, hvalue {} none, hbroken, rfl, ?_⟩
  rw [← hleaves, answerLine_of_mentionsExit {} .recording s hexit]
  rfl

end DeskCalculator
