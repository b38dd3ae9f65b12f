import DeskCalculator.Expr.Evaluate
import Mathlib.Analysis.SpecialFunctions.Log.Base
import Mathlib.Logic.Function.Iterate

/-!
# The depth loop, turn by turn

The loop that measures a tree sees its operations in an order that has nothing to do with their
levels, and keeps no more than the deepest level so far.  What carries it is the level that a
survey is going to reach: the deepest one it has seen, or one of those below its frontier.  No turn
changes that level, and each leaves one operation less to be seen.

* `Site.reach_le_iff` — how deep the tree below a site goes, by its own level and the sites directly
  below it.
* `Survey.reach_turn` — a turn does not change how deep a survey is going to reach.
* `Survey.remaining_iterate`, `Survey.reach_iterate` — the same for any number of turns.
* `Survey.finish_eq_reach` — the loop returns how deep the survey reaches, from any frontier.
* `height_le_length_operations`, `length_leaves_le_two_pow_height` — how high a tree can be.
* `depth_loop_reaches_height` — so the loop ends after one turn for each operation, with the height.
-/

namespace DeskCalculator

namespace Expr

variable {α : Type}

/-! ## How deep a survey reaches -/

/-- The deepest level of an operation at a site or below it. -/
def Site.reach (s : Site α) : Nat := s.level + max s.left.height s.right.height

/-- The deepest level that a survey has seen or has below its frontier. -/
def Survey.reach (v : Survey α) : Nat := (v.frontier.map Site.reach).foldr max v.deepest

/-- One side of an operation: on the next level there is a site unless it is a number. -/
theorem forall_site?_reach_le_iff {level m : Nat} (hlevel : level ≤ m) (e : Expr α) :
    (∀ t ∈ (e.site? (level + 1)).toList, t.reach ≤ m) ↔ level + e.height ≤ m := by
  cases e with
  | value a => simpa [site?, height] using hlevel
  | node o l r =>
    simp only [site?, height, Site.reach, Option.toList_some, List.forall_mem_singleton]
    omega

/-- A site reaches down to its own level and to where the sites directly below it reach. -/
theorem Site.reach_le_iff {s : Site α} {m : Nat} :
    s.reach ≤ m ↔ s.level ≤ m ∧ ∀ t ∈ s.below, t.reach ≤ m := by
  have hbelow (hlevel : s.level ≤ m) : (∀ t ∈ s.below, t.reach ≤ m) ↔
      s.level + s.right.height ≤ m ∧ s.level + s.left.height ≤ m := by
    rw [below, List.forall_mem_append, forall_site?_reach_le_iff hlevel,
      forall_site?_reach_le_iff hlevel]
  rw [and_congr_right hbelow, reach]
  omega

namespace Survey

variable {v : Survey α}

theorem reach_le_iff {m : Nat} :
    v.reach ≤ m ↔ v.deepest ≤ m ∧ ∀ s ∈ v.frontier, s.reach ≤ m := by
  obtain ⟨frontier, deepest⟩ := v
  induction frontier with
  | nil => simp [reach]
  | cons s rest ih =>
    have hcons : reach ⟨s :: rest, deepest⟩ = max s.reach (reach ⟨rest, deepest⟩) := rfl
    rw [hcons, max_le_iff, ih, List.forall_mem_cons]
    tauto

/-- With nothing left to be seen, what was found is all there is. -/
theorem reach_of_frontier_nil (h : v.frontier = []) : v.reach = v.deepest := by
  rw [reach, h]
  rfl

/-! ## Turns -/

/-- What a turn takes off the frontier it keeps: the level of the operation among those seen, and
what lies below it on the frontier. -/
theorem reach_turn (v : Survey α) : v.turn.reach = v.reach := by
  obtain ⟨frontier, deepest⟩ := v
  cases frontier with
  | nil => rfl
  | cons s rest =>
    refine eq_of_forall_ge_iff fun m => ?_
    simp only [reach_le_iff, turn, List.forall_mem_append, List.forall_mem_cons, max_le_iff,
      Site.reach_le_iff (s := s)]
    tauto

theorem reach_iterate (v : Survey α) (n : Nat) : (turn^[n] v).reach = v.reach := by
  induction n with
  | zero => rfl
  | succ n ih => rw [Function.iterate_succ_apply', reach_turn, ih]

theorem remaining_iterate (v : Survey α) (n : Nat) :
    (turn^[n] v).remaining = v.remaining - n := by
  induction n with
  | zero => rfl
  | succ n ih => rw [Function.iterate_succ_apply', remaining_turn, ih, Nat.sub_sub]

/-- From any frontier the loop returns how deep the survey reaches. -/
theorem finish_eq_reach (v : Survey α) : v.finish = v.reach := by
  fun_induction finish v with
  | case1 v h => exact (reach_of_frontier_nil h).symm
  | case2 v h ih => rw [ih, reach_turn]

/-! ## The survey of a tree -/

variable {l r : Expr α}

theorem reach_start : (start l r).reach = max l.height r.height + 1 := by
  simp only [start, reach, Site.reach, List.map_cons, List.map_nil, List.foldr_cons,
    List.foldr_nil, Nat.max_zero]
  omega

theorem remaining_start (o : Operation) :
    (start l r).remaining = (node o l r).operations.length := by
  simp only [start, remaining, operationsAt, Site.operations, operations, List.length_append,
    List.length_cons]
  omega

/-- The survey of a tree has something to see for as many turns as the tree has operations. -/
theorem frontier_iterate_eq_nil_iff (o : Operation) {n : Nat} :
    (turn^[n] (start l r)).frontier = [] ↔ (node o l r).operations.length ≤ n := by
  rw [← remaining_eq_zero_iff, remaining_iterate, remaining_start o, Nat.sub_eq_zero_iff_le]

end Survey

/-! ## How high a tree can be -/

theorem height_le_length_operations (e : Expr α) : e.height ≤ e.operations.length := by
  induction e with
  | value a => exact Nat.zero_le _
  | node o l r ihl ihr =>
    simp only [height, operations, List.length_append, List.length_cons]
    omega

/-- With each level the numbers at most double. -/
theorem length_leaves_le_two_pow_height (e : Expr α) : e.leaves.length ≤ 2 ^ e.height := by
  induction e with
  | value a => exact le_refl 1
  | node o l r ihl ihr =>
    have hl : 2 ^ l.height ≤ 2 ^ max l.height r.height :=
      Nat.pow_le_pow_right Nat.two_pos (le_max_left _ _)
    have hr : 2 ^ r.height ≤ 2 ^ max l.height r.height :=
      Nat.pow_le_pow_right Nat.two_pos (le_max_right _ _)
    calc (node o l r).leaves.length
        = l.leaves.length + r.leaves.length := List.length_append
      _ ≤ 2 ^ max l.height r.height + 2 ^ max l.height r.height := by omega
      _ = 2 ^ (node o l r).height := by rw [height, Nat.pow_succ, Nat.mul_two]

theorem logb_length_leaves_le_height (e : Expr α) :
    Real.logb 2 e.leaves.length ≤ e.height := by
  have hpos : (0 : ℝ) < e.leaves.length := by
    rw [length_leaves]
    positivity
  rw [Real.logb_le_iff_le_rpow one_lt_two hpos, Real.rpow_natCast]
  exact_mod_cast e.length_leaves_le_two_pow_height

/-- **The depth loop reaches the height of its tree.**  For an operation on any two trees the
loop has something to see for exactly as many turns as there are operations in the whole tree.  The
deepest level it has found by then, which it returns, is one more than the greater height of the two
trees; so it is at most the number of operations, and at least the logarithm to base 2 of the number
of leaves. -/
theorem depth_loop_reaches_height (o : Operation) (l r : Expr α) :
    let e : Expr α := .node o l r
    let d : Nat := max l.height r.height + 1
    (∀ n, (Survey.turn^[n] (.start l r)).frontier = [] ↔ e.operations.length ≤ n) ∧
      (Survey.turn^[e.operations.length] (.start l r)).deepest = d ∧ e.depth? = some d ∧
      d ≤ e.operations.length ∧ Real.logb 2 e.leaves.length ≤ d := by
  intro e d
  have hturns : ∀ n, (Survey.turn^[n] (.start l r)).frontier = [] ↔ e.operations.length ≤ n :=
    fun n => Survey.frontier_iterate_eq_nil_iff o
  have hfound : (Survey.turn^[e.operations.length] (.start l r)).deepest = d := by
    rw [← Survey.reach_of_frontier_nil ((hturns _).mpr le_rfl), Survey.reach_iterate,
      Survey.reach_start]
  have hdepth : e.depth? = some d := by
    rw [depth?, Survey.finish_eq_reach, Survey.reach_start]
  exact ⟨hturns, hfound, hdepth, e.height_le_length_operations, e.logb_length_leaves_le_height⟩

/-- Levels are not seen one after another.  With `1 + 2` and `3 * (4 / 5)` on the two sides, level 3
has been seen after three turns, while the sum on level 2 still waits. -/
example :
    Survey.turn^[3] (.start (.node .sum (.value 1) (.value 2))
      (.node .multiplication (.value 3) (.node .division (.value 4) (.value 5)))) =
      ⟨[⟨.value 1, .value 2, 2⟩], 3⟩ := rfl

end Expr

end DeskCalculator
