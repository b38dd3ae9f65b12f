import DeskCalculator.Expr.Basic

/-!
# The value and the depth of a tree

Both are computed by loops with a work list of their own, so that a chain of many thousand
operations needs no deep recursion.

* `Expr.run` — the loop that evaluates; `Expr.evaluate?` starts it.
* `Expr.Survey.finish` — the loop that measures, turn by turn; `Expr.depth?` starts it.
* `Expr.fold` — the value by recursion on the tree, which `evaluate?` has to agree with.
-/

namespace DeskCalculator

namespace Expr

variable {α : Type}

/-- The value of a tree by recursion, for any meaning of the operations. -/
def fold (f : Operation → α → α → α) : Expr α → α
  | .value a => a
  | .node o l r => f o (l.fold f) (r.fold f)

/-! ## Evaluation -/

/-- A piece of work: a tree that is still to be evaluated, or an operation whose two values have
been computed by then. -/
inductive Task (α : Type) where
  | visit (e : Expr α)
  | apply (o : Operation)
deriving Repr

/-- How many steps a tree takes. -/
def steps : Expr α → Nat
  | .value _ => 1
  | .node _ l r => l.steps + r.steps + 2

/-- How many steps a piece of work takes. -/
def Task.steps : Task α → Nat
  | .visit e => e.steps
  | .apply _ => 1

/-- How many steps a work list takes. -/
def workLeft : List (Task α) → Nat
  | [] => 0
  | t :: rest => t.steps + workLeft rest

/-- Work off a list.  `results` are the values that wait for their operation, the latest first.
A missing value ends the run without a result. -/
def run (f : Operation → α → α → α) (pending : List (Task α)) (results : List α) :
    Option (List α) :=
  match pending with
  | [] => some results
  | .visit (.value a) :: rest => run f rest (a :: results)
  | .visit (.node o l r) :: rest =>
    run f (.visit l :: .visit r :: .apply o :: rest) results
  | .apply o :: rest =>
    match results with
    | right :: left :: results => run f rest (f o left right :: results)
    | _ => none
termination_by workLeft pending
decreasing_by
  all_goals simp only [workLeft, Task.steps, steps]; omega

/-- The value of a tree by the loop. -/
def evaluate? (f : Operation → α → α → α) (e : Expr α) : Option α :=
  (run f [.visit e] []).bind List.getLast?

/-! ## Depth -/

/-- An operation on the level it is on, with the trees on its two sides. -/
structure Site (α : Type) where
  left : Expr α
  right : Expr α
  level : Nat
deriving Repr

/-- The operation at the top of a tree, on a level; a number has none. -/
def site? (level : Nat) : Expr α → Option (Site α)
  | .value _ => none
  | .node _ left right => some ⟨left, right, level⟩

namespace Site

/-- The operations directly below one, each a level deeper; the right one is seen first. -/
def below (s : Site α) : List (Site α) :=
  (s.right.site? (s.level + 1)).toList ++ (s.left.site? (s.level + 1)).toList

/-- How many operations a site stands for, its own and all below it. -/
def operations (s : Site α) : Nat :=
  s.left.operations.length + s.right.operations.length + 1

end Site

/-- How many operations a list of sites stands for. -/
def operationsAt : List (Site α) → Nat
  | [] => 0
  | s :: rest => s.operations + operationsAt rest

theorem operationsAt_append (sites rest : List (Site α)) :
    operationsAt (sites ++ rest) = operationsAt sites + operationsAt rest := by
  induction sites with
  | nil => exact (Nat.zero_add _).symm
  | cons s sites ih => rw [List.cons_append, operationsAt, operationsAt, ih, Nat.add_assoc]

theorem operationsAt_site? (level : Nat) (e : Expr α) :
    operationsAt (e.site? level).toList = e.operations.length := by
  cases e with
  | value a => rfl
  | node o l r =>
    simp only [site?, Option.toList_some, operationsAt, Site.operations, operations,
      List.length_append, List.length_cons]
    omega

/-- A site stands for its own operation and what those directly below it stand for. -/
theorem Site.operationsAt_below (s : Site α) : operationsAt s.below + 1 = s.operations := by
  rw [below, operationsAt_append, operationsAt_site?, operationsAt_site?, operations]
  omega

/-- Where the loop that measures stands: the operations it has yet to see, and the deepest level
of those it has seen. -/
structure Survey (α : Type) where
  frontier : List (Site α)
  deepest : Nat
deriving Repr

namespace Survey

/-- The survey of an operation on two trees begins with that operation, on level 1. -/
def start (left right : Expr α) : Survey α := ⟨[⟨left, right, 1⟩], 0⟩

/-- See one operation, and put those directly below it in its place. -/
def turn : Survey α → Survey α
  | ⟨[], deepest⟩ => ⟨[], deepest⟩
  | ⟨s :: rest, deepest⟩ => ⟨s.below ++ rest, max deepest s.level⟩

/-- How many operations are yet to be seen. -/
def remaining (v : Survey α) : Nat := operationsAt v.frontier

/-- A turn leaves one operation less to be seen, as long as there is one. -/
theorem remaining_turn (v : Survey α) : v.turn.remaining = v.remaining - 1 := by
  obtain ⟨frontier, deepest⟩ := v
  cases frontier with
  | nil => rfl
  | cons s rest =>
    have hbelow := s.operationsAt_below
    simp only [turn, remaining, operationsAt_append, operationsAt]
    omega

/-- Nothing is left to be seen only when the frontier is empty. -/
theorem remaining_eq_zero_iff (v : Survey α) : v.remaining = 0 ↔ v.frontier = [] := by
  obtain ⟨frontier, deepest⟩ := v
  cases frontier with
  | nil => simp [remaining, operationsAt]
  | cons s rest => simp [remaining, operationsAt, Site.operations]

/-- Take turns until nothing is left to be seen, and return the deepest level. -/
def finish (v : Survey α) : Nat :=
  if v.frontier = [] then v.deepest else v.turn.finish
termination_by v.remaining
decreasing_by
  rename_i hfrontier
  have hremaining : v.remaining ≠ 0 := mt v.remaining_eq_zero_iff.mp hfrontier
  rw [remaining_turn]
  omega

end Survey

/-- The number of levels of operations; a bare number has none to speak of. -/
def depth? : Expr α → Option Nat
  | .value _ => none
  | .node _ left right => some (Survey.start left right).finish

end Expr

end DeskCalculator
