import DeskCalculator.CommandLine.Run
import DeskCalculator.Proofs.History.Lines
import DeskCalculator.Proofs.Session.Leaving

/-!
# What a conversation comes to

A conversation reads lines up to the first that mentions an exit word.  Each line before that one
is blank, has a value or fails, given the value of the latest line that has one, and what the user
sees and what the session remembers can be told from these outcomes alone.

* `LineOutcome.of` — what one line comes to, and `lineOutcomes` what lines one after the other.
* `Failure.isLineText_message` — whatever is said of a failure is said on one line.
* `answerLine_of_not_mentionsExit` — the reply to one line, `Conversation.tells_converse` the whole
  conversation, by induction on the lines.
* `converse_append` — after an exit word no line is read.
* `Desk.runConversation_eq` — the program writes what its conversation over the same text does.
* `conversation_tells_lines` — all of this for the lines of a text.
-/

namespace DeskCalculator

/-! ## Messages are said on one line -/

/-- A text without a line feed. -/
def IsLineText (s : List Char) : Prop := ∀ c ∈ s, c ≠ '\n'

instance : DecidablePred IsLineText := fun s => List.decidableBAll (· ≠ '\n') s

section LineTexts

variable {s t : List Char} {quote c : Char}

theorem IsLineText.append (hs : IsLineText s) (ht : IsLineText t) : IsLineText (s ++ t) :=
  List.forall_mem_append.2 ⟨hs, ht⟩

theorem isLineText_natText (n : Nat) : IsLineText (natText n) := by
  intro c hc
  rintro rfl
  exact absurd (isDigit_of_mem_natText hc) (by decide)

theorem isLineText_intText (n : Int) : IsLineText (intText n) := by
  cases n with
  | ofNat n => exact isLineText_natText n
  | negSucc n => exact List.forall_mem_cons.2 ⟨by decide, isLineText_natText (n + 1)⟩

theorem isLineText_hexText (width n : Nat) : IsLineText (hexText width n) := by
  induction width generalizing n with
  | zero => exact fun _ hc => absurd hc List.not_mem_nil
  | succ width ih =>
    have hdigit : ∀ d < 16, hexDigit d ≠ '\n' := by decide
    have hlast : IsLineText [hexDigit (n % 16)] := by
      simpa [IsLineText] using hdigit (n % 16) (Nat.mod_lt n (by decide))
    exact (ih (n / 16)).append hlast

/-- A line feed is always written as an escape. -/
theorem isLineText_quotedChar (hquote : quote ≠ '\n') : IsLineText (quotedChar quote c) := by
  have hescape : ∀ (letter : Char) (width : Nat), letter ≠ '\n' →
      IsLineText ('\\' :: letter :: hexText width c.toNat) := by
    intro letter width hletter
    have hfront : IsLineText ['\\', letter] := by simpa [IsLineText] using hletter
    exact hfront.append (isLineText_hexText width c.toNat)
  unfold quotedChar
  split_ifs with hself hfeed
  · refine List.forall_mem_cons.2 ⟨by decide, ?_⟩
    rw [Bool.or_eq_true, decide_eq_true_eq, decide_eq_true_eq] at hself
    rcases hself with hself | hself
    · simpa [hself] using hquote
    · simp [hself]
  · decide
  · decide
  · decide
  · simpa [IsLineText] using hfeed
  · exact hescape 'x' 2 (by decide)
  · exact hescape 'u' 4 (by decide)
  · exact hescape 'U' 8 (by decide)

theorem isLineText_quoted (s : List Char) : IsLineText (quoted s) := by
  have hquote : quoteFor s ≠ '\n' := by
    unfold quoteFor
    split_ifs <;> decide
  refine List.forall_mem_cons.2 ⟨hquote, IsLineText.append ?_ (by simpa [IsLineText] using hquote)⟩
  intro d hd
  obtain ⟨c, -, hd⟩ := List.mem_flatMap.1 hd
  exact isLineText_quotedChar hquote d hd

theorem StackFailure.isLineText_message (e : StackFailure) : IsLineText e.message := by
  cases e with
  | negativeCapacity n => exact IsLineText.append (by decide) (isLineText_intText n)
  | growthTooSmall n => exact IsLineText.append (by decide) (isLineText_intText n)
  | capacityTooLarge => decide
  | capacityOverflow => decide

/-- Whatever is said of a failure is said on one line. -/
theorem Failure.isLineText_message (e : Failure) : IsLineText e.message := by
  have hsymbol : ∀ s : Symbol, IsLineText [s.char] := by
    intro s
    cases s with
    | operation o => cases o <;> decide
    | opening | closing => decide
  cases e with
  | lex e =>
    exact (IsLineText.append (IsLineText.append (by decide) (isLineText_quoted _))
      (by decide)).append (isLineText_natText _)
  | unknownOperator text => exact IsLineText.append (by decide) (isLineText_quoted text)
  | invalidNumber text => exact IsLineText.append (by decide) (isLineText_quoted text)
  | missingOperandOf s => exact IsLineText.append (by decide) (hsymbol s)
  | bracketAsOperation s => exact IsLineText.append (by decide) (hsymbol s)
  | bracketApplied s => exact IsLineText.append (by decide) (hsymbol s)
  | stack e => exact e.isLineText_message
  | noPriorResult text =>
    show IsLineText FailureKind.noPriorResult.defaultMessage.toList
    decide
  | emptyExpression | noOperand | mismatchedParentheses | noResult | missingOperator
  | missingValue => decide

/-- So complaints are lines, one for each failure. -/
theorem linesOf_complaints (failures : List Failure) :
    linesOf (failures.flatMap complaintLine) = failures.map complaintLine := by
  have hprefix : IsLineText "Error: ".toList := by decide
  have htexts : ∀ text ∈ failures.map fun e => "Error: ".toList ++ e.message,
      ∀ c ∈ text, c ≠ '\n' := by
    intro text htext
    obtain ⟨e, -, rfl⟩ := List.mem_map.1 htext
    exact hprefix.append e.isLineText_message
  have hlines := linesOf_linesText htexts
  rwa [linesText, List.flatMap_map, List.map_map] at hlines

end LineTexts

/-! ## The outcomes of lines -/

/-- What a line without an exit word comes to. -/
inductive LineOutcome where
  /-- There is nothing on it. -/
  | blank
  /-- It has a value. -/
  | value (v : Float)
  /-- Its calculation fails. -/
  | failure (e : Failure)

namespace LineOutcome

/-- What a line comes to, given the previous result. -/
def of (last? : Option Float) (line : List Char) : LineOutcome :=
  if line.all isBlank then .blank
  else
    match evaluateLine {} last? line with
    | .ok v => .value v
    | .error e => .failure e

/-- The value, if there is one. -/
def value? : LineOutcome → Option Float
  | .value v => some v
  | .blank | .failure _ => none

/-- The failure, if there is one. -/
def failure? : LineOutcome → Option Failure
  | .failure e => some e
  | .blank | .value _ => none

/-- What is written behind the prompt: the result line of a value, and nothing else. -/
def output (o : LineOutcome) : List Char := o.value?.elim [] resultLine

end LineOutcome

/-- The previous result after some lines: the value of the latest line that has one, or the initial
one if there is none. -/
def latestValue (initial : Option Float) (outcomes : List LineOutcome) : Option Float :=
  (outcomes.filterMap LineOutcome.value?).getLast?.or initial

/-- What lines come to, one after the other. -/
def lineOutcomes (last? : Option Float) : List (List Char) → List LineOutcome
  | [] => []
  | line :: rest =>
    .of last? line :: lineOutcomes ((LineOutcome.of last? line).value?.or last?) rest

theorem latestValue_cons (initial : Option Float) (o : LineOutcome) (outcomes : List LineOutcome) :
    latestValue initial (o :: outcomes) = latestValue (o.value?.or initial) outcomes := by
  unfold latestValue
  rw [List.filterMap_cons]
  cases o.value? with
  | none => rfl
  | some v =>
    rw [List.getLast?_cons]
    cases (outcomes.filterMap LineOutcome.value?).getLast? <;> rfl

/-- Each line comes to what it would alone, given the value of the latest line before it that has
one. -/
theorem lineOutcomes_getElem? (last? : Option Float) (lines : List (List Char)) (i : Nat) :
    (lineOutcomes last? lines)[i]? =
      lines[i]?.map (LineOutcome.of (latestValue last? ((lineOutcomes last? lines).take i))) := by
  induction lines generalizing last? i with
  | nil => rfl
  | cons line lines ih =>
    rw [lineOutcomes]
    cases i with
    | zero => rfl
    | succ i =>
      rw [List.getElem?_cons_succ, List.getElem?_cons_succ, List.take_succ_cons, latestValue_cons, ih]

/-! ## One line -/

section Line

variable {column column' : Nat} {line s' : List Char} {tokens : List Token}

theorem Scans.all_blank (h : Scans column line tokens column' s') (htokens : tokens = [])
    (hend : s' = []) : ∀ c ∈ line, isBlank c = true := by
  induction h with
  | done =>
    rw [hend]
    exact fun _ hc => absurd hc List.not_mem_nil
  | blank hc _ ih => exact List.forall_mem_cons.2 ⟨hc, ih htokens hend⟩
  | token => cases htokens

/-- A line has no tokens if and only if it is blank. -/
theorem tokenize_eq_nil_iff : tokenize line = .ok [] ↔ line.all isBlank = true := by
  rw [tokenize_eq_ok_iff, List.all_eq_true]
  constructor
  · rintro ⟨column, hscans⟩
    exact hscans.all_blank rfl rfl
  · intro h
    have hscans := scans_blanks h 0 []
    rw [List.append_nil] at hscans
    exact ⟨_, hscans⟩

variable {last? : Option Float}

theorem LineOutcome.of_eq_blank (h : tokenize line = .ok []) : of last? line = .blank := by
  rw [of, if_pos (tokenize_eq_nil_iff.1 h)]

theorem LineOutcome.of_eq_value {v : Float} (h : tokenize line ≠ .ok [])
    (hvalue : evaluateLine {} last? line = .ok v) : of last? line = .value v := by
  rw [of, if_neg (mt tokenize_eq_nil_iff.2 h), hvalue]

theorem LineOutcome.of_eq_failure {e : Failure} (h : tokenize line ≠ .ok [])
    (hvalue : evaluateLine {} last? line = .error e) : of last? line = .failure e := by
  rw [of, if_neg (mt tokenize_eq_nil_iff.2 h), hvalue]

end Line

section Conversing

variable {σ : Type} {limits : StackLimits} {sink : Sink σ} {prompt : List Char} {s : Session σ}
  {line : List Char} {lines : List (List Char)}

/-- A line without an exit word is answered by what it comes to. -/
theorem answerLine_of_not_mentionsExit (hlength : line.length < largestCapacity - 32)
    (hexit : mentionsExit line = false) (sink : Sink σ) (s : Session σ) :
    ∃ session records,
      answerLine {} sink s line =
          { session, goesOn := .ok true, output := (LineOutcome.of s.last? line).output,
            complaints := (LineOutcome.of s.last? line).failure?.elim [] complaintLine, records } ∧
        session.last? = (LineOutcome.of s.last? line).value?.or s.last? ∧
        (sink.IsQuiet → ∀ r ∈ records, r.level = .debug) := by
  have hanswered := answered_answerLine {} sink s line
  generalize answerLine {} sink s line = reply at hanswered
  cases hanswered with
  | exit h =>
    rw [h] at hexit
    cases hexit
  | blank _ hblank =>
    rw [LineOutcome.of_eq_blank hblank]
    exact ⟨s, [], rfl, rfl, by simp⟩
  | value _ hblank hvalue hlast hlevel =>
    rw [LineOutcome.of_eq_value hblank hvalue]
    exact ⟨_, _, rfl, hlast, hlevel⟩
  | @failure e records _ hblank hvalue hlevel =>
    have hrecoverable := (contained_evaluateLine hlength s.last?).isRecoverable hvalue
    rw [LineOutcome.of_eq_failure hblank hvalue, LineReply.ofFailure, if_pos hrecoverable]
    exact ⟨s, records, rfl, rfl, hlevel⟩

/-! ## A whole conversation -/

/-- What a user sees and what the session remembers of a conversation, told from what its lines came
to. -/
structure Conversation.Tells (sink : Sink σ) (prompt : List Char) (last? : Option Float)
    (outcomes : List LineOutcome) (c : Conversation σ) : Prop where
  output_eq : c.output = outcomes.flatMap (fun o => prompt ++ o.output) ++ prompt
  complaints_eq : c.complaints = (outcomes.filterMap LineOutcome.failure?).flatMap complaintLine
  last_eq : c.session.last? = latestValue last? outcomes
  level_eq : sink.IsQuiet → ∀ r ∈ c.records, r.level = .debug

namespace Conversation

theorem tells_nil (ending : Ending) :
    Tells sink prompt s.last? [] ⟨s, ending, prompt, [], []⟩ :=
  ⟨rfl, rfl, rfl, fun _ _ hr => absurd hr List.not_mem_nil⟩

/-- One more line in front. -/
theorem Tells.cons {last? : Option Float} {o : LineOutcome} {outcomes : List LineOutcome}
    {c : Conversation σ} {records : List LogRecord}
    (h : Tells sink prompt (o.value?.or last?) outcomes c)
    (hlevel : sink.IsQuiet → ∀ r ∈ records, r.level = .debug) :
    Tells sink prompt last? (o :: outcomes)
      (c.after (prompt ++ o.output) (o.failure?.elim [] complaintLine) records) where
  output_eq := by
    rw [after, h.output_eq, List.flatMap_cons]
    exact (List.append_assoc _ _ _).symm
  complaints_eq := by
    rw [after, h.complaints_eq, List.filterMap_cons]
    cases o.failure? <;> rfl
  last_eq := by
    rw [after, h.last_eq, latestValue_cons]
  level_eq := by
    intro hquiet
    exact List.forall_mem_append.2 ⟨hlevel hquiet, h.level_eq hquiet⟩

end Conversation

theorem converse_of_mentionsExit (hexit : mentionsExit line = true) :
    converse limits sink prompt s (line :: lines) = ⟨s, .exitWord, prompt, [], []⟩ := by
  rw [converse, answerLine_of_mentionsExit limits sink s hexit]

/-- A conversation ends with the first line that mentions an exit word, or where the lines end, and
the lines before tell the rest. -/
theorem Conversation.tells_converse (h : ∀ line ∈ lines, line.length < largestCapacity - 32)
    (sink : Sink σ) (prompt : List Char) (s : Session σ) :
    let c := converse {} sink prompt s lines
    c.ending = (if lines.any mentionsExit then .exitWord else .endOfInput) ∧
      c.Tells sink prompt s.last?
        (lineOutcomes s.last? (lines.takeWhile fun line => !mentionsExit line)) := by
  induction lines generalizing s with
  | nil => exact ⟨rfl, tells_nil .endOfInput⟩
  | cons line lines ih =>
    obtain ⟨hlength, hrest⟩ := List.forall_mem_cons.1 h
    cases hexit : mentionsExit line with
    | true =>
      rw [converse_of_mentionsExit hexit, List.takeWhile_cons_of_neg (by simp [hexit])]
      exact ⟨by simp [hexit], tells_nil .exitWord⟩
    | false =>
      obtain ⟨session, records, hreply, hlast, hlevel⟩ :=
        answerLine_of_not_mentionsExit hlength hexit sink s
      obtain ⟨hending, htells⟩ := ih hrest session
      rw [converse, hreply, List.takeWhile_cons_of_pos (by simp [hexit])]
      rw [hlast] at htells
      exact ⟨by simpa [after, hexit] using hending, htells.cons hlevel⟩

/-- After an exit word no line is read. -/
theorem converse_append {read : List (List Char)} (hread : read.any mentionsExit = true)
    (rest : List (List Char)) (s : Session σ) :
    converse limits sink prompt s (read ++ rest) = converse limits sink prompt s read := by
  induction read generalizing s with
  | nil => cases hread
  | cons line read ih =>
    rw [List.cons_append]
    by_cases hexit : mentionsExit line = true
    · rw [converse_of_mentionsExit hexit, converse_of_mentionsExit hexit]
    · have hread' : read.any mentionsExit = true := by simpa [hexit] using hread
      rw [converse, converse, ih hread']

/-- A conversation over a text has one more line feed if it ends where the text does. -/
theorem converseText_eq {input : List Char} {exits : Bool}
    (h : (converse limits sink prompt s (linesOf input)).ending =
      if exits then .exitWord else .endOfInput) :
    converseText limits sink prompt s input =
      let c := converse limits sink prompt s (linesOf input)
      { c with output := c.output ++ if exits then [] else ['\n'] } := by
  unfold converseText
  generalize converse limits sink prompt s (linesOf input) = c at h ⊢
  obtain ⟨session, ending, output, complaints, records⟩ := c
  cases exits with
  | true =>
    cases h
    simp
  | false =>
    cases h
    rfl

end Conversing

/-! ## The lines of a text -/

/-- No line is longer than the text. -/
theorem length_lt_of_mem_linesOf {input : List Char} {bound : Nat} (h : input.length < bound) :
    ∀ line ∈ linesOf input, line.length < bound := by
  intro line hline
  have hsub := List.sublist_flatten_of_mem hline
  rw [flatten_linesOf] at hsub
  exact Nat.lt_of_le_of_lt hsub.length_le h

/-! ## The program around a conversation -/

/-- How the program ends with a conversation that no interrupt cuts off. -/
def Ending.outcome : Ending → Outcome
  | .exitWord | .endOfInput => .finished 0
  | .failed e => .failed e

/-- The program ends as its conversation over the same text does, and writes the same. -/
theorem Desk.runConversation_eq (d : Desk) (now input : List Char) (records : List LogRecord) :
    let c := converseText d.settings.limits (Archive.sink now) d.settings.prompt.joined d.session
      input
    d.runConversation now input false records =
      (d.withSession c.session).finish c.ending.outcome c.output c.complaints
        (records ++ c.records) := by
  unfold runConversation Desk.converse converseText
  generalize DeskCalculator.converse _ _ _ _ _ = c
  obtain ⟨session, ending, output, complaints, logged⟩ := c
  cases ending <;> rfl

/-- With stacks of the default limits the program writes what its conversation does and finishes
with code zero. -/
theorem Desk.runConversation_tells {input : List Char}
    (hlength : input.length < largestCapacity - 32) (d : Desk) (hlimits : d.settings.limits = {})
    (now : List Char) (records : List LogRecord) :
    let told := converseText {} (Archive.sink now) d.settings.prompt.joined d.session input
    let report := d.runConversation now input false records
    report.outcome = .finished 0 ∧ report.output = told.output ∧
      report.complaints = told.complaints := by
  intro told report
  obtain ⟨hending, -⟩ := Conversation.tells_converse (length_lt_of_mem_linesOf hlength)
    (Archive.sink now) d.settings.prompt.joined d.session
  have hends : told.ending.outcome = .finished 0 := by
    unfold told
    rw [converseText_eq hending]
    dsimp only
    rw [hending]
    split_ifs <;> rfl
  have hreport := d.runConversation_eq now input records
  rw [hlimits] at hreport
  unfold report
  rw [hreport]
  exact ⟨hends, rfl, rfl⟩

/-- **A conversation is told by its lines.**  The lines that are answered are those before the first
that mentions an exit word.  Each of them is blank, has a value or fails, given the value of the
latest line before it that has one.  The output is the prompt for each of them with the result line
of its value, if it has one, and the prompt for the line with the exit word, or else for the end of
the input with a line feed behind it.  There is one complaint for each failure, on a line of its own
and in order, and with a quiet listener nothing is logged but for finding faults.  In the end the
session remembers the latest value.  The lines after the one with the exit word make no difference
to any of this.  A program whose stacks have the default limits writes the output and the complaints
of its own conversation over the text, told in the same way, and finishes with code zero. -/
theorem conversation_tells_lines {input : List Char}
    (hlength : input.length < largestCapacity - 32) {σ : Type} (sink : Sink σ)
    (prompt : List Char) (s : Session σ) :
    let lines := linesOf input
    let answered := lines.takeWhile fun line => !mentionsExit line
    let outcomes := lineOutcomes s.last? answered
    let c := converseText {} sink prompt s input
    (∀ i : Nat, outcomes[i]? =
        answered[i]?.map (LineOutcome.of (latestValue s.last? (outcomes.take i)))) ∧
      c.ending = (if lines.any mentionsExit then .exitWord else .endOfInput) ∧
      c.output = outcomes.flatMap (fun o => prompt ++ o.output) ++ prompt ++
        (if lines.any mentionsExit then [] else ['\n']) ∧
      linesOf c.complaints = (outcomes.filterMap LineOutcome.failure?).map complaintLine ∧
      c.session.last? = latestValue s.last? outcomes ∧
      (sink.IsQuiet → ∀ r ∈ c.records, r.level = .debug) ∧
      (∀ read input', read.any mentionsExit = true → read <+: lines → read <+: linesOf input' →
        converseText {} sink prompt s input' = c) ∧
      ∀ (d : Desk) (now : List Char) (records : List LogRecord), d.settings.limits = {} →
        let told := converseText {} (Archive.sink now) d.settings.prompt.joined d.session input
        let report := d.runConversation now input false records
        report.outcome = .finished 0 ∧ report.output = told.output ∧
          report.complaints = told.complaints := by
  intro lines answered outcomes c
  obtain ⟨hending, htells⟩ :=
    Conversation.tells_converse (length_lt_of_mem_linesOf hlength) sink prompt s
  have hlater : ∀ read input', read.any mentionsExit = true → read <+: lines →
      read <+: linesOf input' → converseText {} sink prompt s input' = c := by
    rintro read input' hread ⟨rest, hrest⟩ ⟨rest', hrest'⟩
    have hsame : converse {} sink prompt s (linesOf input') = converse {} sink prompt s lines := by
      rw [← hrest, ← hrest', converse_append hread, converse_append hread]
    unfold c converseText
    rw [hsame]
  have hcomplaints : linesOf (converse {} sink prompt s lines).complaints =
      (outcomes.filterMap LineOutcome.failure?).map complaintLine := by
    rw [htells.complaints_eq, linesOf_complaints]
  have hc : c = { converse {} sink prompt s lines with
      output := (converse {} sink prompt s lines).output ++
        if lines.any mentionsExit then [] else ['\n'] } := converseText_eq hending
  rw [hc] at hlater ⊢
  exact ⟨lineOutcomes_getElem? s.last? answered, hending, congrArg (· ++ _) htells.output_eq,
    hcomplaints, htells.last_eq, htells.level_eq, hlater,
    fun d now records hlimits => d.runConversation_tells hlength hlimits now records⟩

/-- The theorem at a text with a result, a blank line, a character that begins no token, an operation
without its second operand, a result from the previous one and a line that ends the conversation. -/
theorem conversation_tells_lines_mixed :
    let read := "2 * 3\n\nans $\nans +\nans - 7.5\n12quit\n".toList
    let input := read ++ "ans".toList
    let prompt := "> ".toList
    let s : Session Unit := ⟨none, ()⟩
    let c := converseText {} .silent prompt s input
    input.length < largestCapacity - 32 ∧ c.ending = .exitWord ∧
      c.output = ("> Result of your operation: 6\n> > > ".toList ++
        "> Result of your operation: -1.5\n> ".toList) ∧
      linesOf c.complaints = ["Error: Unrecognized input '$' at column 4\n".toList,
        "Error: Missing a factor for operator +\n".toList] ∧
      c.session.last? = some (-1.5) ∧ (∀ r ∈ c.records, r.level = .debug) ∧
      converseText {} .silent prompt s read = c := by
  intro read input prompt s c
  have hlength : input.length < largestCapacity - 32 := by decide
  obtain ⟨-, hending, houtput, hcomplaints, hlast, hlevel, hlater, -⟩ :=
    conversation_tells_lines hlength Sink.silent prompt s
  have hanswered : (linesOf input).takeWhile (fun line => !mentionsExit line) =
      ["2 * 3\n".toList, ['\n'], "ans $\n".toList, "ans +\n".toList, "ans - 7.5\n".toList] := rfl
  have houtcomes : lineOutcomes s.last? ((linesOf input).takeWhile fun line => !mentionsExit line) =
      [.value 6.0, .blank, .failure (.lex ⟨'$', 4⟩),
        .failure (.missingOperandOf (.operation .sum)), .value (-1.5)] := by
    rw [hanswered]
    with_unfolding_all rfl
  have hexit : (linesOf input).any mentionsExit = true := rfl
  have hquiet : Sink.silent.IsQuiet := fun _ _ => ⟨rfl, rfl⟩
  rw [houtcomes] at houtput hcomplaints hlast
  rw [hexit] at hending houtput
  exact ⟨hlength, hending, houtput, hcomplaints, hlast, hlevel hquiet,
    hlater (linesOf read) read rfl ⟨["ans".toList], rfl⟩ List.prefix_rfl⟩

end DeskCalculator
