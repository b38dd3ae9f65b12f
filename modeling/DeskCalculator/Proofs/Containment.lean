import DeskCalculator.Proofs.Evaluation
import DeskCalculator.Proofs.Parser.Failures
import DeskCalculator.Proofs.Token.Lexemes
import DeskCalculator.Transcript

/-!
# No line does harm

Whatever a line holds, its calculation gives a number or fails in one of seven ways, and a
session survives each of them.  The other failures mark what cannot happen: each rests on
something that the parts before have seen to.

* The text of a number is one (`accepts_of_tokenize`), so no operand of a line is unreadable.
* Brackets never get into a tree and trees always have a value (`parseFault_of_error`,
  `evaluateTree_eq`); also a quotient by zero is one (`quotient_by_zero`).
* A line has no more tokens than characters (`length_le_of_tokenize`), so the stacks have room.
-/

namespace DeskCalculator

variable {β γ : Type}

/-- The ways in which a line can fail. -/
def lineFailureKinds : List FailureKind :=
  [.unrecognizedInput, .missingFactor, .unknownOperator, .noPriorResult, .mismatchedParentheses,
    .malformedExpression, .missingOperator]

/-- A calculation gives a result, or fails in one of the ways in which a line can fail. -/
def Contained (x : Except Failure β) : Prop :=
  (∃ b, x = .ok b) ∨ ∃ k ∈ lineFailureKinds, FailsAs x k

theorem isRecoverable_of_mem_lineFailureKinds :
    ∀ k ∈ lineFailureKinds, k.isRecoverable = true := by
  decide

namespace Contained

theorem ok (b : β) : Contained (.ok b) := .inl ⟨b, rfl⟩

theorem error {e : Failure} (h : e.kind ∈ lineFailureKinds) :
    Contained (.error e : Except Failure β) :=
  .inr ⟨e.kind, h, e, rfl, rfl⟩

theorem map {x : Except Failure β} (h : Contained x) (f : β → γ) : Contained (x.map f) := by
  rcases h with ⟨b, rfl⟩ | ⟨_, hk, e, rfl, rfl⟩
  · exact ok (f b)
  · exact error hk

/-- A session survives such a failure. -/
theorem isRecoverable {x : Except Failure β} {e : Failure} (h : Contained x)
    (he : x = .error e) : e.isRecoverable = true := by
  rcases h with ⟨b, hb⟩ | ⟨_, hk, e', he', rfl⟩
  · rw [hb] at he
    cases he
  · rw [he'] at he
    cases he
    exact isRecoverable_of_mem_lineFailureKinds _ hk

end Contained

/-! ## Quotients -/

/-- What equals zero is a zero, of either sign. -/
theorem unpack_of_eq_zero {b : Float} (h : (b == 0) = true) :
    ∃ sign, b.toModel.unpack = .zero sign := by
  have hcompare : (b.toModel.unpack.compare (.zero .positive) == some .eq) = true := h
  cases hb : b.toModel.unpack with
  | zero sign => exact ⟨sign, rfl⟩
  | notANumber =>
    rw [hb] at hcompare
    cases hcompare
  | infinity sign | finite sign _ _ _ =>
    rw [hb] at hcompare
    cases sign <;> cases hcompare

theorem unpack_pack_infinity (sign : Float.Model.UnpackedFloat.Sign) :
    (Float.Model.pack (.infinity sign)).unpack = .infinity sign := by
  cases sign <;> rfl

/-- Division by a zero, by what is divided. -/
theorem unpack_div_zero {a b : Float} {sign : Float.Model.UnpackedFloat.Sign}
    (hb : b.toModel.unpack = .zero sign) :
    (a / b).toModel.unpack =
      match a.toModel.unpack with
      | .notANumber | .zero _ => .notANumber
      | .infinity sign' | .finite sign' _ _ _ => .infinity (sign' / sign) := by
  have hquotient : (a / b).toModel = .pack (.div .binary64 a.toModel.unpack (.zero sign)) := by
    rw [← hb]
    rfl
  rw [hquotient]
  cases a.toModel.unpack with
  | notANumber | zero => exact (rfl : (Float.Model.pack .notANumber).unpack = .notANumber)
  | infinity | finite => exact unpack_pack_infinity _

/-- A quotient by zero is no number if zero or no number is divided, and infinite else. -/
theorem quotient_by_zero {b : Float} (a : Float) (h : (b == 0) = true) :
    (Operation.division.apply a b).isNaN = (a == 0 || a.isNaN) ∧
      (Operation.division.apply a b).isInf = !(a == 0 || a.isNaN) := by
  obtain ⟨sign, hb⟩ := unpack_of_eq_zero h
  have hzero : (a == 0) = (a.toModel.unpack.compare (.zero .positive) == some .eq) := rfl
  rw [Operation.apply, Float.isNaN, Float.isInf, Float.isNaN, Float.Model.isNaN, Float.Model.isNaN,
    Float.Model.isInf, unpack_div_zero hb, hzero]
  cases a.toModel.unpack with
  | notANumber => exact ⟨rfl, rfl⟩
  | zero sign' | infinity sign' | finite sign' _ _ _ => cases sign' <;> exact ⟨rfl, rfl⟩

/-! ## The tokens of a line -/

section Line

variable {line : List Char} {tokens : List Token} {t : Token} {last? : Option Float} {e : Failure}

/-- An operand of a line fails only if it is the previous result and there is none. -/
theorem kind_of_resolve (haccepts : t.kind.accepts t.text = true) (hop : t.isOperand = true)
    (h : resolve last? t.text = .error e) : e.kind = .noPriorResult := by
  by_cases hanswer : isAnswerWord t.text = true
  · cases last? with
    | some v =>
      rw [resolve_of_isAnswerWord hanswer] at h
      cases h
    | none =>
      rw [resolve, if_pos hanswer] at h
      cases h
      rfl
  · have hnumber : t.kind = .number := by
      rw [Token.isOperand, Token.isAnswer, Bool.or_eq_true, Bool.and_eq_true] at hop
      rcases hop with hkind | ⟨-, hword⟩
      · simpa using hkind
      · exact absurd hword hanswer
    rw [hnumber] at haccepts
    rw [resolve_of_isNumber last? haccepts] at h
    cases h

/-- On stacks without limits the tokens of a line are read or fail in one of the seven ways. -/
theorem contained_parseUnbounded (htokens : tokenize line = .ok tokens) (last? : Option Float) :
    Contained (parseUnbounded (resolve last?) tokens) := by
  cases h : parseUnbounded (resolve last?) tokens with
  | ok tree => exact .ok tree
  | error e =>
    refine .error ?_
    cases parseFault_of_error h with
    | unresolved ht hop he =>
      rw [kind_of_resolve (accepts_of_tokenize htokens _ ht) hop he]
      decide
    | empty | unknown | missing | mismatched | nothing | excess =>
      simp [Failure.kind, lineFailureKinds]

/-- Trees always have a value, so evaluation adds no way to fail. -/
theorem contained_of_parse {limits : StackLimits} (htokens : tokenize line = .ok tokens)
    (hparse : parse limits (resolve last?) tokens = parseUnbounded (resolve last?) tokens) :
    Contained (evaluateTokens limits last? tokens) := by
  rw [evaluateTokens_eq, parseTokens, hparse]
  exact (contained_parseUnbounded htokens last?).map _

theorem contained_evaluateTokens (htokens : tokenize line = .ok tokens)
    (hlength : line.length < largestCapacity - 32) (last? : Option Float) :
    Contained (evaluateTokens {} last? tokens) :=
  contained_of_parse htokens
    (parse_default (Nat.lt_of_le_of_lt (length_le_of_tokenize htokens) hlength))

theorem contained_evaluateLine (hlength : line.length < largestCapacity - 32)
    (last? : Option Float) : Contained (evaluateLine {} last? line) := by
  cases h : tokenize line with
  | error e =>
    rw [evaluateLine_of_tokenize_error h]
    exact .error (by simp [Failure.kind, lineFailureKinds])
  | ok tokens =>
    rw [evaluateLine_of_tokenize h]
    exact contained_evaluateTokens h hlength last?

end Line

/-! ## The reply to a line -/

section Reply

variable {σ : Type} {sink : Sink σ} {s : Session σ} {line : List Char} {tokens : List Token}
  {e : Failure} {records : List LogRecord}

theorem goesOn_ofFailure (h : e.isRecoverable = true) :
    (LineReply.ofFailure s e records).goesOn = .ok true := by
  rw [LineReply.ofFailure, if_pos h]

/-- A session fails on tokens as a calculation without a session does. -/
theorem Session.evaluateTokens_of_outcome {limits : StackLimits}
    (h : (s.calculateTokens limits sink tokens).outcome = .error e) :
    evaluateTokens limits s.last? tokens = .error e := by
  have houtcome : (s.calculateTokens limits sink tokens).outcome.map Evaluation.value =
      evaluateTokens limits s.last? tokens := calculateTokens_outcome
  rw [← houtcome, h]
  rfl

/-- A line is answered, unless it is a calculation with a failure that a session does not
survive. -/
theorem exists_goesOn_or (limits : StackLimits) (sink : Sink σ) (s : Session σ)
    (line : List Char) :
    (∃ goesOn, (answerLine limits sink s line).goesOn = .ok goesOn) ∨
      ∃ tokens e, tokenize line = .ok tokens ∧ evaluateTokens limits s.last? tokens = .error e ∧
        e.isRecoverable = false ∧ (answerLine limits sink s line).goesOn = .error e := by
  unfold answerLine
  cases htokens : tokenize line with
  | error e =>
    by_cases hexit : mentionsExit line = true
    · exact .inl ⟨false, by simp [hexit]⟩
    · have hrecoverable : (Failure.lex e).isRecoverable = true := rfl
      exact .inl ⟨true, by simp [hexit, goesOn_ofFailure hrecoverable]⟩
  | ok tokens =>
    by_cases hexit : hasExit tokens = true
    · exact .inl ⟨false, by simp [hexit]⟩
    by_cases hnil : tokens.isEmpty = true
    · exact .inl ⟨true, by simp [hexit, hnil]⟩
    -- what the listener does is no failure, so only the calculation can be one
    cases houtcome : (s.calculateTokens limits sink tokens).outcome with
    | ok result => exact .inl ⟨true, by simp [hexit, hnil, houtcome]⟩
    | error e =>
      cases hrecoverable : e.isRecoverable with
      | true => exact .inl ⟨true, by simp [hexit, hnil, houtcome, goesOn_ofFailure hrecoverable]⟩
      | false =>
        refine .inr ⟨tokens, e, rfl, Session.evaluateTokens_of_outcome houtcome, hrecoverable, ?_⟩
        simp [hexit, hnil, houtcome, LineReply.ofFailure, hrecoverable]

/-- A line is answered if its calculation fails in no other way than a line can. -/
theorem exists_goesOn_of_contained {limits : StackLimits}
    (h : ∀ tokens, tokenize line = .ok tokens → Contained (evaluateTokens limits s.last? tokens))
    (sink : Sink σ) : ∃ goesOn, (answerLine limits sink s line).goesOn = .ok goesOn := by
  rcases exists_goesOn_or limits sink s line with hanswered | ⟨tokens, e, htokens, hvalue, he, -⟩
  · exact hanswered
  · rw [(h tokens htokens).isRecoverable hvalue] at he
    cases he

/-- A conversation ends with an exit word only, and is never cut off. -/
theorem exists_goesOn (hlength : line.length < largestCapacity - 32) (sink : Sink σ)
    (s : Session σ) : ∃ goesOn, (answerLine {} sink s line).goesOn = .ok goesOn :=
  exists_goesOn_of_contained (fun _ htokens => contained_evaluateTokens htokens hlength s.last?)
    sink

end Reply

/-! ## Every line -/

/-- **No line does harm.**  A line either stands for a number or fails in one of seven ways, and
whatever listens, a session answers it and can go on.  No other failure occurs: no operand is
unreadable, no bracket comes into a tree or is applied, no value is missing and no stack is
overfull.  A quotient by zero is not one of the failures either, since it is a double. -/
theorem line_failures_contained {line : List Char} (hlength : line.length < largestCapacity - 32)
    (last? : Option Float) :
    Contained (evaluateLine {} last? line) ∧
      (∀ a b : Float, (b == 0) = true →
        (Operation.division.apply a b).isNaN = (a == 0 || a.isNaN) ∧
          (Operation.division.apply a b).isInf = !(a == 0 || a.isNaN)) ∧
      ∀ (σ : Type) (sink : Sink σ) (s : Session σ),
        ∃ goesOn, (answerLine {} sink s line).goesOn = .ok goesOn :=
  ⟨contained_evaluateLine hlength last?, fun a _ hb => quotient_by_zero a hb,
    fun _ sink s => exists_goesOn hlength sink s⟩

/-- The theorem at `7 / (2 - 2) ans )`, which divides by zero, has two factors in a row and a
bracket too many. -/
theorem line_failures_contained_mixed :
    let line := "7 / (2 - 2) ans )".toList
    line.length < largestCapacity - 32 ∧ Contained (evaluateLine {} none line) ∧
      ∃ goesOn, (answerLine {} (Sink.failing "full".toList) ⟨none, ()⟩ line).goesOn = .ok goesOn := by
  intro line
  have hlength : line.length < largestCapacity - 32 := by decide
  obtain ⟨hcontained, -, hreply⟩ := line_failures_contained hlength none
  exact ⟨hlength, hcontained, hreply Unit _ _⟩

end DeskCalculator
