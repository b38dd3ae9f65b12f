import DeskCalculator.Proofs.Session.Listening

/-!
# A listener is told and not asked

A session tells its listener of each success once, when it happens, and of nothing else.  What the
listener makes of it, and whether it fails, changes neither the answers nor what is remembered.

* `Step.seen` — what a step shows of itself, apart from the listener; `Session.seen_respond` and
  `Session.seen_respondAll` compare sessions with different listeners, in a step and in a run.
* `Exchange.notification?` — what a listener is to be told of a step.
* `Sink.watched` — a listener with a record of all that it is told, and `Session.sink_after_watched`
  what stands in the record after a run.
* `listener_told_not_asked` — all of this.
-/

namespace DeskCalculator

variable {σ τ β : Type} {limits : StackLimits} {sink : Sink σ} {sink' : Sink τ} {s : Session σ}
  {s' : Session τ}

/-! ## Nobody asks the listener -/

/-- What a step shows of itself, apart from the listener: its outcome, and the previous result
afterwards. -/
def Step.seen (step : Step σ β) : Except Failure β × Option Float :=
  (step.outcome, step.session.last?)

namespace Session

theorem seen_respond_tokens (h : s.last? = s'.last?) (tokens : List Token) :
    (s.respond limits sink (.tokens tokens)).seen =
      (s'.respond limits sink' (.tokens tokens)).seen := by
  simp only [Step.seen, respond, calculateTokens, h]
  cases evaluateTokens limits s'.last? tokens with
  | error e => simp only [h]
  | ok v => rfl

/-- Sessions with the same memory do the same, whoever listens. -/
theorem seen_respond (h : s.last? = s'.last?) (r : SessionRequest) :
    (s.respond limits sink r).seen = (s'.respond limits sink' r).seen := by
  cases r with
  | reset => rfl
  | tokens tokens => exact seen_respond_tokens h tokens
  | line text =>
    cases htokens : tokensOf text with
    | ok tokens =>
      rw [respond_line htokens, respond_line htokens]
      exact seen_respond_tokens h tokens
    | error e => simp only [Step.seen, respond, calculate, htokens, h]

/-- So they go on doing the same. -/
theorem seen_respondAll (h : s.last? = s'.last?) (requests : List SessionRequest) :
    (s.respondAll limits sink requests).map Step.seen =
      (s'.respondAll limits sink' requests).map Step.seen := by
  induction requests generalizing s s' with
  | nil => rfl
  | cons r requests ih =>
    have hstep : (s.respond limits sink r).seen = (s'.respond limits sink' r).seen :=
      seen_respond h r
    have hmemory := congrArg Prod.snd hstep
    rw [respondAll, respondAll, List.map_cons, List.map_cons, hstep, ih hmemory]

/-- They have the same successes. -/
theorem successes_congr (h : s.last? = s'.last?) (requests : List SessionRequest) :
    s.successes limits sink requests = s'.successes limits sink' requests := by
  have hseen : (s.respondAll limits sink requests).map Step.seen =
      (s'.respondAll limits sink' requests).map Step.seen := seen_respondAll h requests
  have hevaluations := congrArg (List.filterMap fun seen => seen.1.toOption.join) hseen
  rwa [List.filterMap_map, List.filterMap_map] at hevaluations

end Session

/-! ## What a listener is told -/

/-- The tokens that a step is to calculate. -/
def SessionRequest.calculated : SessionRequest → List Token
  | .line text => (tokenize text).toOption.getD []
  | .tokens ts => ts
  | .reset => []

/-- What a listener is to be told of a step: the text of its tokens and its value, if it is a
calculation that succeeds. -/
def Exchange.notification? : Exchange → Option Notification
  | (r, .ok (some e)) => some ⟨joinTokens r.calculated, e.value⟩
  | (_, .ok none) | (_, .error _) => none

theorem Exchange.notification?_congr {r r' : SessionRequest} (h : r.calculated = r'.calculated)
    (outcome : Except Failure (Option Evaluation)) :
    notification? (r, outcome) = notification? (r', outcome) := by
  cases outcome with
  | error e => rfl
  | ok evaluation? =>
    cases evaluation? with
    | none => rfl
    | some e => rw [notification?, notification?, h]

/-- A listener with a record of all that it is told, in order.  It stands in the record also if the
listener fails on it. -/
def Sink.watched (sink : Sink σ) : Sink (σ × List Notification) where
  notify := fun watched n =>
    let reception := sink.notify watched.1 n
    { state := (reception.state, watched.2 ++ [n])
      records := reception.records
      failure? := reception.failure? }

/-- The record has what the listener is told, and the listener is where it would be without it. -/
theorem Sink.foldl_watched (sink : Sink σ) (told : List Notification) (state : σ)
    (heard : List Notification) :
    told.foldl (fun watched n => (sink.watched.notify watched n).state) (state, heard) =
      (told.foldl (fun state n => (sink.notify state n).state) state, heard ++ told) := by
  induction told generalizing state heard with
  | nil => rw [List.append_nil]; rfl
  | cons n told ih =>
    rw [List.foldl_cons, List.foldl_cons, List.append_cons]
    exact ih _ _

namespace Session

theorem notification?_respond_tokens (tokens : List Token) :
    Exchange.notification? (.tokens tokens, (s.respond limits sink (.tokens tokens)).outcome) =
      (s.respond limits sink (.tokens tokens)).evaluation?.map Evaluation.notification := by
  simp only [Step.evaluation?, respond, calculateTokens]
  cases evaluateTokens limits s.last? tokens with
  | error e => rfl
  | ok v => rfl

/-- What is to be told of a step is what is told of its evaluation. -/
theorem notification?_respond (r : SessionRequest) :
    Exchange.notification? (r, (s.respond limits sink r).outcome) =
      (s.respond limits sink r).evaluation?.map Evaluation.notification := by
  cases r with
  | reset => rfl
  | tokens tokens => exact notification?_respond_tokens tokens
  | line text =>
    cases h : tokenize text with
    | ok tokens =>
      have htokens : tokensOf text = .ok tokens := by
        rw [tokensOf, h]
      have hcalculated : (SessionRequest.line text).calculated =
          (SessionRequest.tokens tokens).calculated := by
        rw [SessionRequest.calculated, h]
        rfl
      rw [respond_line htokens, Exchange.notification?_congr hcalculated]
      exact notification?_respond_tokens tokens
    | error e =>
      have htokens : tokensOf text = .error (.lex e) := by
        rw [tokensOf, h]
      simp only [Step.evaluation?, respond, calculate, htokens]
      rfl

/-- In a run the listener is to be told of the successes. -/
theorem filterMap_history (requests : List SessionRequest) :
    (s.history limits sink requests).filterMap Exchange.notification? =
      (s.successes limits sink requests).map Evaluation.notification := by
  induction requests generalizing s with
  | nil => rfl
  | cons r requests ih =>
    rw [history_cons, successes_cons, List.filterMap_cons, notification?_respond, List.map_append,
      ih]
    cases (s.respond limits sink r).evaluation? <;> rfl

/-- After a run the record has what the listener was to be told of it. -/
theorem sink_after_watched (heard : List Notification) (requests : List SessionRequest) :
    (after limits sink.watched ⟨s.last?, (s.sink, heard)⟩ requests).sink =
      ((s.after limits sink requests).sink,
        heard ++ (s.history limits sink requests).filterMap Exchange.notification?) := by
  have hmemory : (⟨s.last?, (s.sink, heard)⟩ : Session (σ × List Notification)).last? = s.last? :=
    rfl
  have hsame : successes limits sink.watched ⟨s.last?, (s.sink, heard)⟩ requests =
      s.successes limits sink requests := successes_congr hmemory requests
  rw [sink_after, hsame, sink_after, filterMap_history]
  have htold := sink.foldl_watched ((s.successes limits sink requests).map Evaluation.notification)
    s.sink heard
  rwa [List.foldl_map, List.foldl_map] at htold

end Session

/-- **A listener is told and not asked.**  With stacks of any limits, in a run of any calculations of
lines and of tokens and any resets, a listener is told of each step that succeeds with a value, once
and in order, with the text of the tokens of the step and its value, and of no other step.  The
listener may fail on whatever it chooses: the outcome of each step, and the previous result after
it, are what they are if nobody listens. -/
theorem listener_told_not_asked (limits : StackLimits) (sink : Sink σ) (s : Session σ)
    (heard : List Notification) (requests : List SessionRequest) :
    (Session.after limits sink.watched ⟨s.last?, (s.sink, heard)⟩ requests).sink =
        ((s.after limits sink requests).sink,
          heard ++ (s.history limits sink requests).filterMap Exchange.notification?) ∧
      (s.respondAll limits sink requests).map Step.seen =
        (Session.respondAll limits .silent ⟨s.last?, ()⟩ requests).map Step.seen := by
  have hmemory : s.last? = (⟨s.last?, ()⟩ : Session Unit).last? := rfl
  exact ⟨Session.sink_after_watched heard requests, Session.seen_respondAll hmemory requests⟩

end DeskCalculator
