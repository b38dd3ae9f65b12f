import DeskCalculator.Decimal.Notation
import DeskCalculator.Expr.Evaluate
import DeskCalculator.Expr.Parser

/-!
# Calculations and sessions

A calculation turns a line into a number, given the previous result.  A session carries the
previous result from one calculation to the next and tells a listener of every success.

* `evaluateTokens` and `evaluateLine` — one calculation, without a session.
* `check` — whether a line could be calculated, and if not, why.
* `Sink` — a listener: how it takes in a notification, and what it says if it fails.
* `Session.respond` — one step of a session.  Only a success changes the previous result, and
  whatever the listener does changes neither the answer nor the previous result.
-/

namespace DeskCalculator

/-! ## One calculation -/

/-- The tokens of a line. -/
def tokensOf (line : List Char) : Except Failure (List Token) :=
  match tokenize line with
  | .ok tokens => .ok tokens
  | .error e => .error (.lex e)

/-- The tree of a list of tokens, with numbers at its leaves. -/
def parseTokens (limits : StackLimits) (last? : Option Float) (tokens : List Token) :
    Except Failure (Expr Float) :=
  parse limits (resolve last?) tokens

/-- The number that a tree stands for. -/
def evaluateTree (e : Expr Float) : Except Failure Float :=
  match e.evaluate? Operation.apply with
  | some v => .ok v
  | none => .error .missingValue

/-- The number that a list of tokens stands for. -/
def evaluateTokens (limits : StackLimits) (last? : Option Float) (tokens : List Token) :
    Except Failure Float := do
  evaluateTree (← parseTokens limits last? tokens)

/-- The tree that a line writes. -/
def parseLine (limits : StackLimits) (last? : Option Float) (line : List Char) :
    Except Failure (Expr Float) := do
  parseTokens limits last? (← tokensOf line)

/-- The number that a line stands for. -/
def evaluateLine (limits : StackLimits) (last? : Option Float) (line : List Char) :
    Except Failure Float := do
  evaluateTree (← parseLine limits last? line)

/-- Whether a line could be calculated if there were a previous result: nothing if so, else what
is wrong with it.  A failure that a session does not survive is none of the line's. -/
def check (limits : StackLimits) (line : List Char) : Except Failure (Option (List Char)) :=
  match parseLine limits (some 0.0) line with
  | .ok _ => .ok none
  | .error e => if e.isRecoverable then .ok (some e.message) else .error e

/-! ## Listeners -/

/-- What a listener is told: the text that was calculated, and its value. -/
structure Notification where
  expression : List Char
  value : Float

/-- What a listener makes of a notification: its new state, what it logs, and what it says
if it fails. -/
structure Reception (σ : Type) where
  state : σ
  records : List LogRecord := []
  failure? : Option (List Char) := none

/-- A listener with states of type `σ`. -/
structure Sink (σ : Type) where
  notify : σ → Notification → Reception σ

namespace Sink

/-- Nobody listens. -/
def silent : Sink Unit := ⟨fun _ _ => { state := () }⟩

/-- A listener that keeps all it is told, in order. -/
def recording : Sink (List Notification) := ⟨fun heard n => { state := heard ++ [n] }⟩

/-- A listener that fails on everything it is told. -/
def failing (reason : List Char) : Sink Unit :=
  ⟨fun _ _ => { state := (), failure? := some reason }⟩

end Sink

/-! ## Sessions -/

/-- A successful calculation. -/
structure Evaluation where
  expression : List Char
  value : Float
  tokens : List Token

/-- The state of a session: the previous result, and the state of the listener. -/
structure Session (σ : Type) where
  last? : Option Float := none
  sink : σ

/-- What one step of a session gives. -/
structure Step (σ : Type) (β : Type) where
  session : Session σ
  outcome : Except Failure β
  records : List LogRecord := []

/-- One thing that a session is asked to do. -/
inductive SessionRequest where
  | line (text : List Char)
  | tokens (tokens : List Token)
  | reset
deriving Repr

namespace Session

variable {σ : Type}

/-- What is logged when the listener fails. -/
def sinkFailed (expression reason : List Char) : LogRecord :=
  ⟨.warning, .evaluator,
    "History sink failed for ".toList ++ expression ++ ": ".toList ++ reason⟩

/-- Calculate a list of tokens. -/
def calculateTokens (limits : StackLimits) (sink : Sink σ) (s : Session σ)
    (tokens : List Token) : Step σ Evaluation :=
  let parsing := parseRecords limits (resolve s.last?) tokens
  match evaluateTokens limits s.last? tokens with
  | .error e => ⟨s, .error e, parsing⟩
  | .ok value =>
    let expression := joinTokens tokens
    let reception := sink.notify s.sink ⟨expression, value⟩
    let complaint := reception.failure?.toList.map (sinkFailed expression)
    ⟨⟨some value, reception.state⟩, .ok ⟨expression, value, tokens⟩,
      parsing ++ reception.records ++ complaint⟩

/-- Calculate a line. -/
def calculate (limits : StackLimits) (sink : Sink σ) (s : Session σ) (line : List Char) :
    Step σ Evaluation :=
  match tokensOf line with
  | .error e => ⟨s, .error e, []⟩
  | .ok tokens => s.calculateTokens limits sink tokens

/-- Forget the previous result. -/
def reset (s : Session σ) : Session σ := { s with last? := none }

/-- Do one thing.  A reset gives no evaluation. -/
def respond (limits : StackLimits) (sink : Sink σ) (s : Session σ) :
    SessionRequest → Step σ (Option Evaluation)
  | .line text =>
    let step := s.calculate limits sink text
    { step with outcome := step.outcome.map some }
  | .tokens tokens =>
    let step := s.calculateTokens limits sink tokens
    { step with outcome := step.outcome.map some }
  | .reset => ⟨s.reset, .ok none, []⟩

/-- Do things in order, with all that they give. -/
def respondAll (limits : StackLimits) (sink : Sink σ) (s : Session σ) :
    List SessionRequest → List (Step σ (Option Evaluation))
  | [] => []
  | r :: rest =>
    let step := s.respond limits sink r
    step :: step.session.respondAll limits sink rest

end Session

end DeskCalculator
