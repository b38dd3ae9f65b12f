import DeskCalculator.Expr.Basic
import DeskCalculator.Token

/-!
# Parsing without limits

The rules of the two stacks on plain lists, which never run out of room.  A parser whose stacks
have limits either agrees with `parseUnbounded` or fails for want of room.

* `TwoStacks` — the symbols that wait and the trees built so far.
* `TwoStacks.step` — what one token does.
* `parseUnbounded` — the tree of a token list.
-/

namespace DeskCalculator

variable {α : Type}

/-- The symbols that wait and the trees built so far, the latest first. -/
structure TwoStacks (α : Type) where
  operators : List Symbol := []
  operands : List (Expr α) := []
deriving Repr

/-- Apply a symbol to the top two trees, the upper one on its right. -/
def reduceTop (s : Symbol) : List (Expr α) → Except Failure (List (Expr α))
  | right :: left :: rest => do return (← Expr.combine? s left right) :: rest
  | _ => .error (.missingOperandOf s)

namespace TwoStacks

/-- Apply the waiting symbols from the top as long as they satisfy a condition. -/
def reduceWhile (condition : Symbol → Bool) :
    List Symbol → List (Expr α) → Except Failure (TwoStacks α)
  | [], operands => .ok ⟨[], operands⟩
  | s :: waiting, operands =>
    if condition s then do reduceWhile condition waiting (← reduceTop s operands)
    else .ok ⟨s :: waiting, operands⟩

/-- Apply everything back to the opening bracket, and drop that one. -/
def closeBracket (st : TwoStacks α) : Except Failure (TwoStacks α) := do
  let st ← reduceWhile (· ≠ .opening) st.operators st.operands
  match st.operators with
  | [] => .error .mismatchedParentheses
  | _ :: waiting => .ok { st with operators := waiting }

/-- Apply what goes before a symbol, and let the symbol wait. -/
def pushSymbol (st : TwoStacks α) (s : Symbol) : Except Failure (TwoStacks α) := do
  let st ← reduceWhile (·.reducesBefore s) st.operators st.operands
  .ok { st with operators := s :: st.operators }

/-- Read one token. -/
def step (resolve : List Char → Except Failure α) (st : TwoStacks α) (t : Token) :
    Except Failure (TwoStacks α) :=
  if t.isOperand then do
    let a ← resolve t.text
    .ok { st with operands := .value a :: st.operands }
  else
    match Symbol.ofText? t.text with
    | none => .error (.unknownOperator t.text)
    | some .closing => st.closeBracket
    | some s => st.pushSymbol s

/-- Apply everything that waits, and take the only tree there is. -/
def finish (st : TwoStacks α) : Except Failure (Expr α) := do
  let st ← reduceWhile (fun s => !s.isBracket) st.operators st.operands
  match st.operators, st.operands with
  | _ :: _, _ => .error .mismatchedParentheses
  | [], [] => .error .noResult
  | [], [e] => .ok e
  | [], _ => .error .missingOperator

end TwoStacks

/-- The tree that a list of tokens writes, on stacks without limits. -/
def parseUnbounded (resolve : List Char → Except Failure α) (tokens : List Token) :
    Except Failure (Expr α) :=
  if tokens.isEmpty then .error .emptyExpression
  else do (← tokens.foldlM (TwoStacks.step resolve) {}).finish

end DeskCalculator
