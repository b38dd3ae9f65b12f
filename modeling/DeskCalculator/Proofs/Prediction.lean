import DeskCalculator.Proofs.Containment
import DeskCalculator.Proofs.Parser.Naturality
import DeskCalculator.Proofs.Parser.Vocabulary

/-!
# What a check foretells

The previous result is a number, and the parser does not look at numbers.  So a list of tokens can
be read with the previous result left open.  What comes out is a failure, or a frame: a tree that is
open wherever the previous result stands, to be filled with whatever it is.  A check fills it with
zero, and what it says holds for every other number.

* `resolveOpen`, `Expr.fill` — operands with the previous result left open, and the filled tree.
* `parseTokens_some` — reading with a previous result is reading without it and then filling.
* `parseTokens_failure_or_frame` — so all previous results meet the same failure or fill the same
  frame, and `parseLine_failure_or_frame` says this of a line.
* `evaluateLine_none_of_not_isAnswer`, `not_isAnswer_of_evaluateLine_none` — without a previous
  result only a line that does not ask for it is calculated.
* `acceptance_ignores_answer` — all of this, of a check.
-/

namespace DeskCalculator

/-! ## The previous result left open -/

/-- A tree with each open leaf filled with a number. -/
def Expr.fill {α : Type} (a : α) (frame : Expr (Option α)) : Expr α := frame.map fun x => x.getD a

/-- The value of an operand's text with the previous result left open: nothing stands for it. -/
def resolveOpen (text : List Char) : Except Failure (Option Float) :=
  if isAnswerWord text then .ok none else (resolve none text).map some

/-- What an operand puts into a frame. -/
def Token.openValue (t : Token) : Option Float :=
  if isAnswerWord t.text then none else some (literalValue t.text)

/-- An operand has the value that it has with the previous result left open, filled with it. -/
theorem resolve_some (a : Float) (text : List Char) :
    resolve (some a) text = (resolveOpen text).map fun x => x.getD a := by
  unfold resolveOpen
  by_cases hans : isAnswerWord text = true
  · rw [if_pos hans, resolve_of_isAnswerWord hans]
    rfl
  · rw [if_neg hans, resolve_of_not_isAnswerWord (by simpa using hans) (some a) none]
    cases resolve none text with
    | error e => rfl
    | ok v => rfl

theorem eq_openValue {t : Token} {x : Option Float} (h : resolveOpen t.text = .ok x) :
    x = t.openValue := by
  unfold resolveOpen at h
  unfold Token.openValue
  by_cases hans : isAnswerWord t.text = true
  · rw [if_pos hans] at h ⊢
    cases h
    rfl
  · rw [if_neg hans] at h ⊢
    obtain ⟨v, hv, rfl⟩ := map_eq_ok.1 h
    unfold resolve at hv
    rw [if_neg hans] at hv
    split at hv
    · cases hv
      rfl
    · cases hv

/-! ## Frames -/

section Frames

variable {limits : StackLimits} {tokens : List Token} {frame : Expr (Option Float)}

/-- Reading with a previous result is reading with it left open, and filling the frame with it. -/
theorem parseTokens_some (limits : StackLimits) (tokens : List Token) (a : Float) :
    parseTokens limits (some a) tokens = (parse limits resolveOpen tokens).map (Expr.fill a) := by
  apply parse_map limits
  intro t _ _
  exact resolve_some a t.text

/-- The open leaves of a frame are those of the operands that ask for the previous result. -/
theorem leaves_of_parse_resolveOpen (h : parse limits resolveOpen tokens = .ok frame) :
    frame.leaves = (operandTokens tokens).map Token.openValue := by
  have hleaves := leaves_parseUnbounded (parseUnbounded_of_parse h)
  unfold operandValues at hleaves
  generalize frame.leaves = leaves at hleaves ⊢
  generalize operandTokens tokens = operands at hleaves ⊢
  induction operands generalizing leaves with
  | nil => simpa using hleaves
  | cons t rest ih =>
    cases leaves with
    | nil => simp at hleaves
    | cons x leaves =>
      rw [List.map_cons, List.map_cons] at hleaves
      obtain ⟨hx, hrest⟩ := List.cons.inj hleaves
      rw [List.map_cons, ih leaves hrest, eq_openValue hx.symm]

/-- All previous results meet the same failure, or they fill the same frame. -/
theorem parseTokens_failure_or_frame (limits : StackLimits) (tokens : List Token) :
    (∃ e, ∀ a, parseTokens limits (some a) tokens = .error e) ∨
      ∃ frame : Expr (Option Float), frame.leaves = (operandTokens tokens).map Token.openValue ∧
        ∀ a, parseTokens limits (some a) tokens = .ok (frame.fill a) := by
  cases h : parse limits resolveOpen tokens with
  | error e =>
    left
    refine ⟨e, fun a => ?_⟩
    rw [parseTokens_some, h, map_error]
  | ok frame =>
    right
    refine ⟨frame, leaves_of_parse_resolveOpen h, fun a => ?_⟩
    rw [parseTokens_some, h, map_ok]

end Frames

/-! ## Lines -/

section Lines

variable {limits : StackLimits} {line : List Char} {tokens : List Token}

/-- The same of the tokens of a line, and of a line that has none. -/
theorem parseLine_failure_or_frame (limits : StackLimits) (line : List Char) :
    (∃ e, ∀ a, parseLine limits (some a) line = .error e) ∨
      ∃ frame : Expr (Option Float), ∀ a, parseLine limits (some a) line = .ok (frame.fill a) := by
  unfold parseLine
  cases tokensOf line with
  | error e =>
    left
    exact ⟨e, fun a => rfl⟩
  | ok tokens =>
    simp only [ok_bind]
    rcases parseTokens_failure_or_frame limits tokens with hfails | ⟨frame, -, hframe⟩
    · exact .inl hfails
    · exact .inr ⟨frame, hframe⟩

/-- A line with a tree has a value. -/
theorem evaluateLine_of_parseLine {last? : Option Float} {e : Expr Float}
    (h : parseLine limits last? line = .ok e) :
    evaluateLine limits last? line = .ok (e.fold Operation.apply) := by
  rw [evaluateLine, h, ok_bind, evaluateTree_eq]

theorem evaluateLine_of_parseLine_error {last? : Option Float} {e : Failure}
    (h : parseLine limits last? line = .error e) : evaluateLine limits last? line = .error e := by
  rw [evaluateLine, h, error_bind]

/-- A line that does not ask for the previous result needs none. -/
theorem evaluateLine_none_of_not_isAnswer (htokens : tokenize line = .ok tokens)
    (hnone : ∀ t ∈ tokens, t.isAnswer = false) (last? : Option Float) :
    evaluateLine limits none line = evaluateLine limits last? line := by
  have hagree : ∀ t ∈ tokens, t.isOperand = true → resolve none t.text = resolve last? t.text := by
    intro t ht hop
    have haccepts := accepts_of_tokenize htokens t ht
    rw [Token.isOperand, hnone t ht, Bool.or_false, beq_iff_eq] at hop
    rw [hop] at haccepts
    rw [resolve_of_isNumber none haccepts, resolve_of_isNumber last? haccepts]
  rw [evaluateLine_of_tokenize htokens, evaluateLine_of_tokenize htokens, evaluateTokens_eq,
    evaluateTokens_eq, parseTokens, parse_congr limits hagree, parseTokens]

/-- A token that asks for the previous result cannot be read if there is none. -/
theorem not_readable_of_isAnswer {t : Token} (h : t.isAnswer = true) :
    ¬ t.Readable (resolve none) := by
  have hop : t.isOperand = true := by simp [Token.isOperand, h]
  have hword : isAnswerWord t.text = true := by
    rw [Token.isAnswer, Bool.and_eq_true] at h
    exact h.2
  rintro (⟨-, a, ha⟩ | ⟨s, hs⟩)
  · rw [resolve, if_pos hword] at ha
    cases ha
  · rw [Token.symbol_of_isOperand hop] at hs
    cases hs

/-- What is calculated without a previous result does not ask for it. -/
theorem not_isAnswer_of_evaluateLine_none {v : Float} (h : evaluateLine limits none line = .ok v) :
    ∃ tokens, tokenize line = .ok tokens ∧ ∀ t ∈ tokens, t.isAnswer = false := by
  cases htokens : tokenize line with
  | error e =>
    rw [evaluateLine_of_tokenize_error htokens] at h
    cases h
  | ok tokens =>
    rw [evaluateLine_of_tokenize htokens] at h
    obtain ⟨e, he⟩ := parseUnbounded_of_evaluateTokens h
    refine ⟨tokens, rfl, fun t ht => ?_⟩
    by_contra hans
    exact not_readable_of_isAnswer (by simpa using hans) (readable_of_parseUnbounded he t ht)

/-! ## Checks -/

/-- Nothing is wrong with a line that has a tree when the previous result is zero. -/
theorem check_of_ok {e : Expr Float} (h : parseLine limits (some 0.0) line = .ok e) :
    check limits line = .ok none := by
  rw [check, h]

theorem check_of_error {e : Failure} (h : parseLine limits (some 0.0) line = .error e)
    (hrecoverable : e.isRecoverable = true) : check limits line = .ok (some e.message) := by
  rw [check, h]
  exact if_pos hrecoverable

/-- A check passes a line exactly if it can be calculated with every previous result; the failure
that it reports of another line is that of a calculation with any of them. -/
theorem check_cases (hlength : line.length < largestCapacity - 32) :
    (check {} line = .ok none ∧ ∀ a, ∃ v, evaluateLine {} (some a) line = .ok v) ∨
      ∃ e : Failure, e.isRecoverable = true ∧ check {} line = .ok (some e.message) ∧
        ∀ a, evaluateLine {} (some a) line = .error e := by
  rcases parseLine_failure_or_frame {} line with ⟨e, hfails⟩ | ⟨frame, hframe⟩
  · right
    have hvalue : ∀ a, evaluateLine {} (some a) line = .error e := by
      intro a
      exact evaluateLine_of_parseLine_error (hfails a)
    -- a session survives whatever is wrong with a line, so the check reports it
    have hrecoverable : e.isRecoverable = true :=
      (contained_evaluateLine hlength (some 0.0)).isRecoverable (hvalue 0.0)
    exact ⟨e, hrecoverable, check_of_error (hfails 0.0) hrecoverable, hvalue⟩
  · left
    refine ⟨check_of_ok (hframe 0.0), fun a => ?_⟩
    exact ⟨_, evaluateLine_of_parseLine (hframe a)⟩

end Lines

/-- **Whether something can be calculated does not depend on the previous result.**  With stacks of
any limits, a list of tokens meets the same failure whatever the previous result is, or there is one
frame that it writes with all of them, filled with the previous result where an operand asks for it.
So a check passes a line if and only if it can be calculated with every previous result; of any
other line it says in words what a calculation fails with, whatever the previous result.  And with
no previous result a line can be calculated if and only if the check passes it and none of its
tokens asks for one. -/
theorem acceptance_ignores_answer (limits : StackLimits) (tokens : List Token) {line : List Char}
    (hlength : line.length < largestCapacity - 32) :
    ((∃ e, ∀ a, parseTokens limits (some a) tokens = .error e) ∨
        ∃ frame : Expr (Option Float), frame.leaves = (operandTokens tokens).map Token.openValue ∧
          ∀ a, parseTokens limits (some a) tokens = .ok (frame.fill a)) ∧
      (check {} line = .ok none ↔ ∀ a, ∃ v, evaluateLine {} (some a) line = .ok v) ∧
      (check {} line ≠ .ok none → ∃ e : Failure, e.isRecoverable = true ∧
        check {} line = .ok (some e.message) ∧ ∀ a, evaluateLine {} (some a) line = .error e) ∧
      ((∃ v, evaluateLine {} none line = .ok v) ↔ check {} line = .ok none ∧
        ∃ found, tokenize line = .ok found ∧ ∀ t ∈ found, t.isAnswer = false) := by
  refine ⟨parseTokens_failure_or_frame limits tokens, ?_⟩
  rcases check_cases hlength with ⟨hpass, hvalue⟩ | ⟨e, hrecoverable, hmessage, hfails⟩
  · refine ⟨iff_of_true hpass hvalue, fun h => absurd hpass h, ?_, ?_⟩
    · rintro ⟨v, hv⟩
      exact ⟨hpass, not_isAnswer_of_evaluateLine_none hv⟩
    · rintro ⟨-, found, hfound, hnone⟩
      rw [evaluateLine_none_of_not_isAnswer hfound hnone (some 0.0)]
      exact hvalue 0.0
  · have hnot : check {} line ≠ .ok none := by
      rw [hmessage]
      simp
    refine ⟨iff_of_false hnot ?_, fun _ => ⟨e, hrecoverable, hmessage, hfails⟩, ?_, ?_⟩
    · intro hvalue
      obtain ⟨v, hv⟩ := hvalue 0.0
      rw [hfails] at hv
      cases hv
    · rintro ⟨v, hv⟩
      obtain ⟨found, hfound, hnone⟩ := not_isAnswer_of_evaluateLine_none hv
      rw [evaluateLine_none_of_not_isAnswer hfound hnone (some 0.0), hfails] at hv
      cases hv
    · rintro ⟨hpass, -⟩
      exact absurd hpass hnot

/-- The theorem at `ans 1 + ans *`, which is in no good order and yet has a frame, at
`ans / (ans - ans)`, which is no number for most previous results and can be calculated with all of
them but not without one, and at `2 * (ans - 1`, where a bracket is missing. -/
theorem acceptance_ignores_answer_open :
    let ans (position : Nat) : Token := ⟨.identifier, "ans".toList, position⟩
    let tokens : List Token :=
      [ans 0, ⟨.number, ['1'], 4⟩, ⟨.symbol, ['+'], 6⟩, ans 8, ⟨.symbol, ['*'], 12⟩]
    let line := "ans / (ans - ans)".toList
    let broken := "2 * (ans - 1".toList
    (∃ frame : Expr (Option Float), frame.leaves = [none, some (literalValue ['1']), none] ∧
        ∀ a, parseTokens {} (some a) tokens = .ok (frame.fill a)) ∧
      (line.length < largestCapacity - 32 ∧ check {} line = .ok none ∧
        (∀ a, ∃ v, evaluateLine {} (some a) line = .ok v) ∧
        ¬ ∃ v, evaluateLine {} none line = .ok v) ∧
      broken.length < largestCapacity - 32 ∧
      check {} broken = .ok (some "There are mismatched parentheses".toList) ∧
      ∀ a, evaluateLine {} (some a) broken = .error .mismatchedParentheses := by
  intro ans tokens line broken
  have hline : line.length < largestCapacity - 32 := by decide
  have hbroken : broken.length < largestCapacity - 32 := by decide
  have hpass : check {} line = .ok none := rfl
  have hmessage : check {} broken = .ok (some "There are mismatched parentheses".toList) := rfl
  have hzero : evaluateLine {} (some 0.0) broken = .error .mismatchedParentheses := rfl
  obtain ⟨hframe, hvalue, -, hnone⟩ := acceptance_ignores_answer {} tokens hline
  obtain ⟨-, -, hfails, -⟩ := acceptance_ignores_answer {} tokens hbroken
  refine ⟨hframe.resolve_left ?_, ⟨hline, hpass, hvalue.1 hpass, ?_⟩, hbroken, hmessage, ?_⟩
  · rintro ⟨e, he⟩
    have htree : parseTokens {} (some 0.0) tokens = .error e := he 0.0
    cases htree
  · intro hvalue
    obtain ⟨-, found, hfound, hasks⟩ := hnone.1 hvalue
    cases hfound
    exact absurd (hasks _ List.mem_cons_self) (by decide)
  · obtain ⟨e, -, -, he⟩ := hfails (by rw [hmessage]; simp)
    have heq := he 0.0
    rw [hzero] at heq
    cases heq
    exact he

end DeskCalculator
