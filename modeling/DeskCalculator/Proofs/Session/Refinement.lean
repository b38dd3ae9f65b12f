import DeskCalculator.Proofs.Evaluation

/-!
# Sessions remember one number

All that a session carries from one step to the next is the previous result, so each of its
answers is that of a calculation without a session, and a step that fails might as well not have
been asked for.

* `SessionRequest.evaluate` — what a step gives without a session.
* `latestAnswer` — the previous result, said of the answers so far.
* `Responded` — what one step can do; `Session.responded_respond` says that it does no more.
* `Session.answers_getElem?` — each answer of a run, by induction on the run.
* `Session.history_of_omitsFailures` — a run without some of the steps that fail.
* `session_refines_evaluation` — all of this.
-/

namespace DeskCalculator

variable {σ : Type} {limits : StackLimits} {sink : Sink σ} {s : Session σ} {r : SessionRequest}

/-! ## Without a session -/

/-- What a step gives without a session: a number, or nothing for a reset. -/
def SessionRequest.evaluate (limits : StackLimits) (last? : Option Float) :
    SessionRequest → Except Failure (Option Float)
  | .line text => (evaluateLine limits last? text).map some
  | .tokens ts => (evaluateTokens limits last? ts).map some
  | .reset => .ok none

/-- The previous result after some answers: what the latest of them that is no failure gave, which
is nothing for a reset, or the initial one if there is none. -/
def latestAnswer (initial : Option Float) (answers : List (Except Failure (Option Float))) :
    Option Float :=
  (answers.filterMap Except.toOption).getLast?.getD initial

theorem latestAnswer_nil (initial : Option Float) : latestAnswer initial [] = initial := rfl

theorem latestAnswer_ok (initial answer : Option Float)
    (answers : List (Except Failure (Option Float))) :
    latestAnswer initial (.ok answer :: answers) = latestAnswer answer answers := by
  have hanswer : (Except.ok answer : Except Failure _).toOption = some answer := rfl
  rw [latestAnswer, latestAnswer, List.filterMap_cons_some hanswer, List.getLast?_cons,
    Option.getD_some]

theorem latestAnswer_error (initial : Option Float) (e : Failure)
    (answers : List (Except Failure (Option Float))) :
    latestAnswer initial (.error e :: answers) = latestAnswer initial answers := by
  have hanswer : (Except.error e : Except Failure (Option Float)).toOption = none := rfl
  rw [latestAnswer, latestAnswer, List.filterMap_cons_none hanswer]

/-! ## One step -/

/-- The number in the outcome of a step. -/
def Step.answer (step : Step σ (Option Evaluation)) : Except Failure (Option Float) :=
  step.outcome.map (Option.map Evaluation.value)

/-- What a step of a session can be, if it gives `x` without a session. -/
inductive Responded (s : Session σ) (x : Except Failure (Option Float))
    (step : Step σ (Option Evaluation)) : Prop
  /-- A failure leaves the session as it was. -/
  | failure {e : Failure} : step.outcome = .error e → x = .error e → step.session = s →
      Responded s x step
  /-- A success is remembered. -/
  | success {evaluation : Evaluation} : step.outcome = .ok (some evaluation) →
      x = .ok (some evaluation.value) → step.session.last? = some evaluation.value →
      Responded s x step
  /-- A reset forgets. -/
  | reset : step.outcome = .ok none → x = .ok none → step.session.last? = none →
      Responded s x step

namespace Responded

variable {x : Except Failure (Option Float)} {step : Step σ (Option Evaluation)}

theorem answer_eq (h : Responded s x step) : step.answer = x := by
  cases h with
  | failure houtcome hx _ | success houtcome hx _ | reset houtcome hx _ =>
    rw [Step.answer, houtcome, hx]
    rfl

theorem latestAnswer_cons (h : Responded s x step)
    (answers : List (Except Failure (Option Float))) :
    latestAnswer s.last? (step.answer :: answers) = latestAnswer step.session.last? answers := by
  rw [h.answer_eq]
  cases h with
  | failure _ hx hsession => rw [hx, latestAnswer_error, hsession]
  | success _ hx hlast | reset _ hx hlast => rw [hx, latestAnswer_ok, hlast]

theorem session_eq {e : Failure} (h : Responded s x step) (he : step.outcome = .error e) :
    step.session = s := by
  cases h with
  | failure _ _ hsession => exact hsession
  | success houtcome _ _ | reset houtcome _ _ =>
    rw [houtcome] at he
    cases he

end Responded

theorem Session.responded_tokens (limits : StackLimits) (sink : Sink σ) (s : Session σ)
    (tokens : List Token) :
    Responded s ((SessionRequest.tokens tokens).evaluate limits s.last?)
      (s.respond limits sink (.tokens tokens)) := by
  simp only [SessionRequest.evaluate, respond, calculateTokens]
  cases evaluateTokens limits s.last? tokens with
  | error e => exact .failure rfl rfl rfl
  | ok v => exact .success rfl rfl rfl

/-- A line that has tokens is calculated as these are. -/
theorem Session.respond_line {text : List Char} {tokens : List Token}
    (h : tokensOf text = .ok tokens) :
    s.respond limits sink (.line text) = s.respond limits sink (.tokens tokens) := by
  simp only [respond, calculate, h]

theorem SessionRequest.evaluate_line {text : List Char} {tokens : List Token}
    (h : tokensOf text = .ok tokens) (last? : Option Float) :
    (line text).evaluate limits last? = (SessionRequest.tokens tokens).evaluate limits last? := by
  rw [evaluate, evaluate, evaluateLine_eq, h]
  rfl

/-- A step does what it does without a session, remembers a success, forgets at a reset, and
leaves all as it was if it fails. -/
theorem Session.responded_respond (limits : StackLimits) (sink : Sink σ) (s : Session σ)
    (r : SessionRequest) :
    Responded s (r.evaluate limits s.last?) (s.respond limits sink r) := by
  cases r with
  | reset => exact .reset rfl rfl rfl
  | tokens tokens => exact responded_tokens limits sink s tokens
  | line text =>
    cases h : tokensOf text with
    | ok tokens =>
      rw [respond_line h, SessionRequest.evaluate_line h]
      exact responded_tokens limits sink s tokens
    | error e =>
      simp only [SessionRequest.evaluate, evaluateLine_eq, respond, calculate, h]
      exact .failure rfl rfl rfl

/-! ## Runs -/

/-- What was asked for, and what came of it. -/
abbrev Exchange := SessionRequest × Except Failure (Option Evaluation)

namespace Session

/-- The numbers that a run gives. -/
def answers (limits : StackLimits) (sink : Sink σ) (s : Session σ)
    (requests : List SessionRequest) : List (Except Failure (Option Float)) :=
  (s.respondAll limits sink requests).map Step.answer

/-- What was asked for in a run, with what came of it. -/
def history (limits : StackLimits) (sink : Sink σ) (s : Session σ)
    (requests : List SessionRequest) : List Exchange :=
  requests.zip ((s.respondAll limits sink requests).map Step.outcome)

theorem answers_cons (requests : List SessionRequest) :
    s.answers limits sink (r :: requests) =
      (s.respond limits sink r).answer ::
        (s.respond limits sink r).session.answers limits sink requests := rfl

theorem history_cons (requests : List SessionRequest) :
    s.history limits sink (r :: requests) =
      (r, (s.respond limits sink r).outcome) ::
        (s.respond limits sink r).session.history limits sink requests := rfl

/-- Each answer of a run is that of a calculation without a session. -/
theorem answers_getElem? (requests : List SessionRequest) (i : Nat) :
    (s.answers limits sink requests)[i]? = requests[i]?.map fun r =>
      r.evaluate limits (latestAnswer s.last? ((s.answers limits sink requests).take i)) := by
  induction requests generalizing s i with
  | nil => rfl
  | cons r requests ih =>
    have hstep := responded_respond limits sink s r
    rw [answers_cons]
    cases i with
    | zero => simp [hstep.answer_eq, latestAnswer_nil]
    | succ i =>
      -- for the rest of the run the first step has set the initial result
      rw [List.getElem?_cons_succ, List.getElem?_cons_succ, List.take_succ_cons,
        hstep.latestAnswer_cons, ih]

end Session

/-! ## Without the steps that fail -/

/-- Some steps that fail are left out of a run. -/
inductive OmitsFailures : List Exchange → List Exchange → Prop
  | nil : OmitsFailures [] []
  /-- A step is kept. -/
  | keep {kept all : List Exchange} (exchange : Exchange) :
      OmitsFailures kept all → OmitsFailures (exchange :: kept) (exchange :: all)
  /-- A step that fails is left out. -/
  | leaveOut {kept all : List Exchange} (r : SessionRequest) (e : Failure) :
      OmitsFailures kept all → OmitsFailures kept ((r, .error e) :: all)

theorem OmitsFailures.refl (all : List Exchange) : OmitsFailures all all := by
  induction all with
  | nil => exact .nil
  | cons exchange all ih => exact .keep exchange ih

/-- A run without some of the steps that fail goes on as it did with them. -/
theorem Session.history_of_omitsFailures {kept : List Exchange} {requests : List SessionRequest}
    (h : OmitsFailures kept (s.history limits sink requests)) :
    s.history limits sink (kept.map Prod.fst) = kept := by
  induction requests generalizing s kept with
  | nil =>
    cases h
    rfl
  | cons r requests ih =>
    rw [history_cons] at h
    obtain ⟨outcome, houtcome⟩ : ∃ outcome, outcome = (s.respond limits sink r).outcome := ⟨_, rfl⟩
    rw [← houtcome] at h
    cases h with
    | keep _ h =>
      rw [List.map_cons, history_cons, ih h, houtcome]
    | leaveOut _ e h =>
      -- the step failed, so the rest runs in the session from before it
      rw [(responded_respond limits sink s r).session_eq houtcome.symm] at h
      exact ih h

/-! ## Sessions and calculations -/

/-- **A session is a calculator with one number in its memory.**  Each answer of a run, a number or
a failure, is that of a calculation without a session, given the previous result: that of the
latest step before that did not fail, which is none after a reset, or the one from the start.  A
step that fails leaves the session as it was.  So if some of the steps that fail are left out, the
others give what they gave. -/
theorem session_refines_evaluation (limits : StackLimits) (sink : Sink σ) (s : Session σ)
    (requests : List SessionRequest) :
    (∀ i : Nat, (s.answers limits sink requests)[i]? = requests[i]?.map fun r : SessionRequest =>
        r.evaluate limits (latestAnswer s.last? ((s.answers limits sink requests).take i))) ∧
      (∀ (reached : Session σ) (r : SessionRequest) (e : Failure),
        (reached.respond limits sink r).outcome = .error e →
          (reached.respond limits sink r).session = reached) ∧
      ∀ kept, OmitsFailures kept (s.history limits sink requests) →
        s.history limits sink (kept.map Prod.fst) = kept :=
  ⟨Session.answers_getElem? requests,
    fun reached r _ he => (reached.responded_respond limits sink r).session_eq he,
    fun _ hkept => Session.history_of_omitsFailures hkept⟩

/-- The theorem at a session that starts with 7 and is asked for `ans * $`, which fails, for
`ans * 4`, a reset and `ans`. -/
theorem session_refines_evaluation_interrupted :
    let s : Session Unit := ⟨some 7.0, ()⟩
    let product : List Token :=
      [⟨.identifier, ['a', 'n', 's'], 0⟩, ⟨.symbol, ['*'], 4⟩, ⟨.number, ['4'], 6⟩]
    let requests : List SessionRequest :=
      [.line "ans * $".toList, .tokens product, .reset, .line "ans".toList]
    let answers := s.answers {} .silent requests
    let faulty := s.respond {} .silent (.line "ans * $".toList)
    answers[1]? = some ((SessionRequest.tokens product).evaluate {} (some 7.0)) ∧
      answers[3]? = some ((SessionRequest.line "ans".toList).evaluate {} none) ∧
      (faulty.outcome = .error (.lex ⟨'$', 6⟩) ∧ faulty.session = s) ∧
      OmitsFailures (s.history {} .silent requests).tail (s.history {} .silent requests) ∧
      s.history {} .silent requests.tail = (s.history {} .silent requests).tail := by
  intro s product requests answers faulty
  obtain ⟨hanswers, hfailed, hkept⟩ := session_refines_evaluation {} .silent s requests
  have hfaulty : faulty.outcome = .error (.lex ⟨'$', 6⟩) := rfl
  have hbefore : latestAnswer s.last? (answers.take 1) = some 7.0 := rfl
  have hreset : latestAnswer s.last? (answers.take 3) = none := by
    let reached := (faulty.session.respond {} .silent (.tokens product)).session
    have hsteps : answers.take 3 = [faulty.answer,
      (faulty.session.respond {} .silent (.tokens product)).answer,
      (reached.respond {} .silent .reset).answer] := rfl
    rw [hsteps, (s.responded_respond {} _ _).latestAnswer_cons,
      (faulty.session.responded_respond {} _ _).latestAnswer_cons,
      (reached.responded_respond {} _ _).latestAnswer_cons]
    rfl
  have homits : OmitsFailures (s.history {} .silent requests).tail
      (s.history {} .silent requests) :=
    .leaveOut _ (.lex ⟨'$', 6⟩) (.refl _)
  refine ⟨?_, ?_, ⟨hfaulty, hfailed s _ _ hfaulty⟩, homits, hkept _ homits⟩
  · rw [hanswers, hbefore]
    rfl
  · rw [hanswers, hreset]
    rfl

end DeskCalculator
