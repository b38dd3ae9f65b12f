import DeskCalculator.Failure

/-!
# Expression trees

A tree has numbers at its leaves and an operation at each node; brackets do not occur in
it, they have become its shape.  The type of numbers is a parameter: what a tree is does not
depend on the arithmetic.

* `leaves`, `operations`, `height` — the views of a tree.
* `combine?` — the node made with a symbol, which must not be a bracket.
* `render` — the text of a tree, fully bracketed.
-/

namespace DeskCalculator

/-- A tree of operations over numbers of type `α`. -/
inductive Expr (α : Type) where
  | value (a : α)
  | node (o : Operation) (left right : Expr α)
deriving Repr, DecidableEq

namespace Expr

variable {α β : Type}

/-! ## Views -/

/-- The numbers, from left to right. -/
def leaves : Expr α → List α
  | .value a => [a]
  | .node _ l r => l.leaves ++ r.leaves

/-- The operations, each between those of its left and its right tree. -/
def operations : Expr α → List Operation
  | .value _ => []
  | .node o l r => l.operations ++ o :: r.operations

/-- The number of levels of operations. -/
def height : Expr α → Nat
  | .value _ => 0
  | .node _ l r => max l.height r.height + 1

/-- The tree of the same shape with other numbers. -/
def map (f : α → β) : Expr α → Expr β
  | .value a => .value (f a)
  | .node o l r => .node o (l.map f) (r.map f)

/-- A tree has one more number than operations. -/
theorem length_leaves (e : Expr α) : e.leaves.length = e.operations.length + 1 := by
  induction e with
  | value a => rfl
  | node o l r hl hr => simp [leaves, operations, hl, hr]; omega

/-! ## Building -/

/-- The tree that applies a symbol to two trees. -/
def combine? (s : Symbol) (left right : Expr α) : Except Failure (Expr α) :=
  match s with
  | .operation o => .ok (.node o left right)
  | .opening | .closing => .error (.bracketAsOperation s)

/-! ## Text -/

/-- The text of a tree, with brackets around every operation. -/
def render (number : α → List Char) : Expr α → List Char
  | .value a => number a
  | .node o l r =>
    '(' :: (l.render number ++ ' ' :: o.symbol :: ' ' :: (r.render number ++ [')']))

end Expr

/-- Apply a symbol to two numbers. -/
def Symbol.apply? (s : Symbol) (a b : Float) : Except Failure Float :=
  match s with
  | .operation o => .ok (o.apply a b)
  | .opening | .closing => .error (.bracketApplied s)

end DeskCalculator
