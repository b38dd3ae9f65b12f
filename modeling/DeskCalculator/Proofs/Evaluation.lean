import DeskCalculator.Proofs.Evaluation.Turns
import DeskCalculator.Session

/-!
# The value of a calculation

The loop always ends with the one value of its tree, so a calculation can only fail where its text
is read.

* `evaluateTree_eq` — a tree has the value by recursion.
* `evaluateTokens_eq`, `evaluateLine_eq` — one calculation is reading and then evaluating.
* `evaluateLine_of_tokenize`, `evaluateLine_of_tokenize_error` — the two cases of a line.
* `Session.calculateTokens_outcome` — what a session answers is the value of the tree.
-/

namespace DeskCalculator

theorem evaluateTree_eq (e : Expr Float) : evaluateTree e = .ok (e.fold Operation.apply) := by
  rw [evaluateTree, Expr.evaluate_eq]

/-- A list of tokens stands for the value of its tree. -/
theorem evaluateTokens_eq (limits : StackLimits) (last? : Option Float) (tokens : List Token) :
    evaluateTokens limits last? tokens =
      (parseTokens limits last? tokens).map fun e => e.fold Operation.apply := by
  unfold evaluateTokens
  cases parseTokens limits last? tokens with
  | error failure => rfl
  | ok e => exact evaluateTree_eq e

/-- A line stands for what its tokens stand for. -/
theorem evaluateLine_eq (limits : StackLimits) (last? : Option Float) (line : List Char) :
    evaluateLine limits last? line = tokensOf line >>= evaluateTokens limits last? := by
  unfold evaluateLine parseLine
  cases tokensOf line with
  | error failure => rfl
  | ok tokens => rfl

section Line

variable {line : List Char} {tokens : List Token} {e : LexFailure}

theorem evaluateLine_of_tokenize (h : tokenize line = .ok tokens) (limits : StackLimits)
    (last? : Option Float) :
    evaluateLine limits last? line = evaluateTokens limits last? tokens := by
  rw [evaluateLine_eq, tokensOf, h]
  rfl

theorem evaluateLine_of_tokenize_error (h : tokenize line = .error e) (limits : StackLimits)
    (last? : Option Float) : evaluateLine limits last? line = .error (.lex e) := by
  rw [evaluateLine_eq, tokensOf, h]
  rfl

end Line

namespace Session

variable {σ : Type} {limits : StackLimits} {sink : Sink σ} {s : Session σ} {tokens : List Token}

/-- The answer of a session to a list of tokens carries its value. -/
theorem calculateTokens_outcome :
    (s.calculateTokens limits sink tokens).outcome.map Evaluation.value =
      evaluateTokens limits s.last? tokens := by
  unfold calculateTokens
  cases evaluateTokens limits s.last? tokens with
  | error failure => rfl
  | ok v => rfl

/-- After a success the value is the previous result. -/
theorem calculateTokens_last {v : Float} (h : evaluateTokens limits s.last? tokens = .ok v) :
    (s.calculateTokens limits sink tokens).session.last? = some v := by
  simp [calculateTokens, h]

end Session

end DeskCalculator
