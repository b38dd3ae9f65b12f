import DeskCalculator.Proofs.Parser.Vocabulary
import DeskCalculator.Proofs.Session.Refinement

/-!
# What the listener of a session hears

The listener is told of each success, with the text of its tokens and its value, and of nothing
else.  So after a run it is where these notifications alone have brought it.

* `Evaluation.IsCalculated` — an evaluation that some calculation gives.
* `Heard` — what one step can tell the listener; `Session.heard_respond` says that it does no more.
* `Session.sink_after` and `Session.isCalculated_of_mem_successes` — the same of a run.
* `Evaluation.IsCalculated.unbroken` — the text that the listener is told has no blanks in it.
-/

namespace DeskCalculator

variable {σ : Type} {limits : StackLimits} {sink : Sink σ} {s : Session σ} {r : SessionRequest}

/-! ## Evaluations -/

/-- What the listener is told of an evaluation. -/
def Evaluation.notification (e : Evaluation) : Notification := ⟨e.expression, e.value⟩

/-- An evaluation that some calculation gives: its text is that of its tokens put together, and its
value is what they stand for. -/
structure Evaluation.IsCalculated (limits : StackLimits) (e : Evaluation) : Prop where
  expression_eq : e.expression = joinTokens e.tokens
  value_eq : ∃ last?, evaluateTokens limits last? e.tokens = .ok e.value

/-- The text of a success is not empty and has no blanks in it, whoever made its tokens. -/
theorem Evaluation.IsCalculated.unbroken {e : Evaluation} (h : e.IsCalculated limits) :
    e.expression ≠ [] ∧ ∀ c ∈ e.expression, isBlank c = false := by
  obtain ⟨last?, hvalue⟩ := h.value_eq
  obtain ⟨tree, hparse⟩ := parseUnbounded_of_evaluateTokens hvalue
  rw [h.expression_eq]
  exact unbroken_joinTokens hparse

/-! ## One step -/

/-- The evaluation that a step gives, if it does: a failure and a reset give none. -/
def Step.evaluation? (step : Step σ (Option Evaluation)) : Option Evaluation :=
  step.outcome.toOption.join

/-- What a step of a session can tell the listener. -/
inductive Heard (limits : StackLimits) (sink : Sink σ) (s : Session σ)
    (step : Step σ (Option Evaluation)) : Prop
  /-- Nothing. -/
  | silence : step.evaluation? = none → step.session.sink = s.sink → Heard limits sink s step
  /-- A success. -/
  | success {e : Evaluation} : step.evaluation? = some e → e.IsCalculated limits →
      step.session.sink = (sink.notify s.sink e.notification).state → Heard limits sink s step

namespace Session

theorem heard_tokens (limits : StackLimits) (sink : Sink σ) (s : Session σ)
    (tokens : List Token) : Heard limits sink s (s.respond limits sink (.tokens tokens)) := by
  simp only [respond, calculateTokens]
  cases hvalue : evaluateTokens limits s.last? tokens with
  | error e => exact .silence rfl rfl
  | ok v => exact .success rfl ⟨rfl, _, hvalue⟩ rfl

/-- The listener is told of a success, once, and of nothing else. -/
theorem heard_respond (limits : StackLimits) (sink : Sink σ) (s : Session σ)
    (r : SessionRequest) : Heard limits sink s (s.respond limits sink r) := by
  cases r with
  | reset => exact .silence rfl rfl
  | tokens tokens => exact heard_tokens limits sink s tokens
  | line text =>
    cases h : tokensOf text with
    | ok tokens =>
      rw [respond_line h]
      exact heard_tokens limits sink s tokens
    | error e =>
      simp only [respond, calculate, h]
      exact .silence rfl rfl

/-! ## Runs -/

/-- The session after a run. -/
def after (limits : StackLimits) (sink : Sink σ) (s : Session σ)
    (requests : List SessionRequest) : Session σ :=
  requests.foldl (fun s r => (s.respond limits sink r).session) s

/-- The evaluations of a run. -/
def successes (limits : StackLimits) (sink : Sink σ) (s : Session σ)
    (requests : List SessionRequest) : List Evaluation :=
  (s.respondAll limits sink requests).filterMap Step.evaluation?

theorem successes_cons (requests : List SessionRequest) :
    s.successes limits sink (r :: requests) =
      (s.respond limits sink r).evaluation?.toList ++
        (s.respond limits sink r).session.successes limits sink requests := by
  rw [successes, respondAll, List.filterMap_cons]
  cases (s.respond limits sink r).evaluation? <;> rfl

/-- After a run the listener is where its successes have brought it, one after the other. -/
theorem sink_after (requests : List SessionRequest) :
    (s.after limits sink requests).sink =
      (s.successes limits sink requests).foldl
        (fun state e => (sink.notify state e.notification).state) s.sink := by
  induction requests generalizing s with
  | nil => rfl
  | cons r requests ih =>
    have hafter : s.after limits sink (r :: requests) =
        (s.respond limits sink r).session.after limits sink requests := rfl
    rw [hafter, ih, successes_cons]
    cases heard_respond limits sink s r with
    | silence hnone hsink =>
      rw [hnone, hsink]
      rfl
    | success hsome _ hsink =>
      rw [hsome, hsink]
      rfl

theorem isCalculated_of_mem_successes {requests : List SessionRequest} :
    ∀ e ∈ s.successes limits sink requests, e.IsCalculated limits := by
  induction requests generalizing s with
  | nil => exact fun e he => absurd he List.not_mem_nil
  | cons r requests ih =>
    rw [successes_cons]
    refine List.forall_mem_append.2 ⟨?_, ih⟩
    cases heard_respond limits sink s r with
    | silence hnone _ => simp [hnone]
    | success hsome hcalculated _ => simpa [hsome] using hcalculated

end Session

end DeskCalculator
