import DeskCalculator.Expr.Basic
import DeskCalculator.LogRecord
import DeskCalculator.Operand

/-!
# From tokens to a tree

Tokens are read from left to right onto two stacks, one of symbols that wait and one of the
trees built so far.  A symbol that comes in applies the waiting ones that bind at least as
tightly; a closing bracket applies all back to its opening one; at the end what waits is
applied.

* `ParseState` — the two stacks.
* `ParseState.step` — what one token does.
* `parse` — the tree of a token list; what an operand stands for is a parameter.
* `parseRecords` — what is logged on the way.
-/

namespace DeskCalculator

variable {α : Type}

/-! ## Reducing -/

/-- The trees built so far. -/
abbrev Operands (α : Type) := BoundedStack (Expr α)

/-- A failure of a stack is one of the calculation. -/
def liftStack {β : Type} : Except StackFailure β → Except Failure β
  | .ok b => .ok b
  | .error e => .error (.stack e)

/-- Apply a symbol to the top two trees, the upper one on its right. -/
def reduce (operands : Operands α) (s : Symbol) : Except Failure (Operands α) := do
  let (right?, operands) := operands.pop
  let (left?, operands) := operands.pop
  match left?, right? with
  | some left, some right => liftStack (operands.push? (← Expr.combine? s left right))
  | _, _ => .error (.missingOperandOf s)

/-- Apply the waiting symbols from the top as long as they satisfy a condition.  The answer
counts how many were applied. -/
def reduceWhile (condition : Symbol → Bool) :
    List Symbol → Operands α → Except Failure (Nat × Operands α)
  | [], operands => .ok (0, operands)
  | s :: waiting, operands =>
    if condition s then do
      let (applied, operands) ← reduceWhile condition waiting (← reduce operands s)
      .ok (applied + 1, operands)
    else .ok (0, operands)

/-! ## One token -/

/-- What has been read: the symbols that wait and the trees built so far. -/
structure ParseState (α : Type) where
  operators : BoundedStack Symbol
  operands : Operands α
deriving Repr

namespace ParseState

/-- Put a number on the operands. -/
def pushValue (st : ParseState α) (a : α) : Except Failure (ParseState α) := do
  let operands ← liftStack (st.operands.push? (.value a))
  .ok { st with operands }

/-- Apply everything back to the opening bracket, and drop that one. -/
def closeBracket (st : ParseState α) : Except Failure (ParseState α) := do
  let (applied, operands) ← reduceWhile (· ≠ .opening) st.operators.toList st.operands
  let operators := st.operators.dropTop applied
  if operators.isEmpty then .error .mismatchedParentheses
  else .ok ⟨operators.dropTop 1, operands⟩

/-- Apply what goes before a symbol, and let the symbol wait. -/
def pushSymbol (st : ParseState α) (s : Symbol) : Except Failure (ParseState α) := do
  let (applied, operands) ← reduceWhile (·.reducesBefore s) st.operators.toList st.operands
  let operators ← liftStack ((st.operators.dropTop applied).push? s)
  .ok ⟨operators, operands⟩

/-- Read one token. -/
def step (resolve : List Char → Except Failure α) (st : ParseState α) (t : Token) :
    Except Failure (ParseState α) :=
  if t.isOperand then do st.pushValue (← resolve t.text)
  else
    match Symbol.ofText? t.text with
    | none => .error (.unknownOperator t.text)
    | some .closing => st.closeBracket
    | some s => st.pushSymbol s

/-- Apply everything that waits. -/
def drain (st : ParseState α) : Except Failure (ParseState α) := do
  let (applied, operands) ←
    reduceWhile (fun s => !s.isBracket) st.operators.toList st.operands
  let operators := st.operators.dropTop applied
  if operators.isEmpty then .ok ⟨operators, operands⟩
  else .error .mismatchedParentheses

/-- The only tree there is. -/
def finish (st : ParseState α) : Except Failure (Expr α) :=
  match st.operands.pop with
  | (none, _) => .error .noResult
  | (some e, rest) => if rest.isEmpty then .ok e else .error .missingOperator

/-- Two empty stacks. -/
def start (limits : StackLimits) : Except Failure (ParseState α) := do
  let operators ← liftStack (BoundedStack.new? limits)
  let operands ← liftStack (BoundedStack.new? limits)
  .ok ⟨operators, operands⟩

end ParseState

/-! ## All tokens -/

/-- Read a list of tokens onto empty stacks. -/
def readTokens (limits : StackLimits) (resolve : List Char → Except Failure α)
    (tokens : List Token) : Except Failure (ParseState α) := do
  tokens.foldlM (ParseState.step resolve) (← ParseState.start limits)

/-- The tree that a list of tokens writes. -/
def parse (limits : StackLimits) (resolve : List Char → Except Failure α)
    (tokens : List Token) : Except Failure (Expr α) :=
  if tokens.isEmpty then .error .emptyExpression
  else do
    let st ← readTokens limits resolve tokens
    (← st.drain).finish

/-- What is logged while a list of tokens is read: the tokens, and the symbols that wait when
all are read, if it comes to that. -/
def parseRecords (limits : StackLimits) (resolve : List Char → Except Failure α)
    (tokens : List Token) : List LogRecord :=
  if tokens.isEmpty then []
  else
    let record (text : List Char) : LogRecord := ⟨.debug, .parser, text⟩
    record ("Parsing tokens: ".toList ++ quotedList (tokens.map Token.text)) ::
      match readTokens limits resolve tokens with
      | .error _ => []
      | .ok st =>
        [record ("Residual operator stack: ".toList
          ++ quotedList (st.operators.toList.map fun s => [s.char]))]

end DeskCalculator
