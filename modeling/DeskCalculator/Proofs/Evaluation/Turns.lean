import DeskCalculator.Expr.Evaluate

/-!
# The evaluation loop, turn by turn

The loop that evaluates a tree takes one piece of work per turn.  What a turn may do is said by
three rules, and what they have in common carries the rest: a turn does not change what the loop
comes to, and it takes one step off the work.

* `Turn`, `Turns` — one turn, and some number of them.
* `Turn.run_eq`, `Turn.workLeft_eq` — what a turn keeps and what it uses up.
* `exists_turn_of_run` — a loop that comes to something can go on until no work is left.
* `turns_visit` — the turns that a tree takes, whatever else is left to do and whatever waits.
* `run_visit`, `evaluate_eq` — the loop puts the value of a tree by recursion in its place.
* `loop_reaches_value` — so the loop ends, never lacks a value, and leaves the one value by
  recursion.
-/

namespace DeskCalculator

namespace Expr

variable {α : Type} {f : Operation → α → α → α}

/-! ## Turns -/

/-- Where the loop stands: the work that is left, and the values that wait for their operation. -/
structure LoopState (α : Type) where
  pending : List (Task α)
  results : List α

/-- What one turn of the loop does, if it is not short of a value. -/
inductive Turn (f : Operation → α → α → α) : LoopState α → LoopState α → Prop
  /-- A number is its own value. -/
  | value {a : α} {rest : List (Task α)} {results : List α} :
      Turn f ⟨.visit (.value a) :: rest, results⟩ ⟨rest, a :: results⟩
  /-- Of an operation both sides are evaluated first, the left one before the right one. -/
  | node {o : Operation} {l r : Expr α} {rest : List (Task α)} {results : List α} :
      Turn f ⟨.visit (.node o l r) :: rest, results⟩
        ⟨.visit l :: .visit r :: .apply o :: rest, results⟩
  /-- An operation takes the top two values, the upper one on its right. -/
  | apply {o : Operation} {left right : α} {rest : List (Task α)} {results : List α} :
      Turn f ⟨.apply o :: rest, right :: left :: results⟩ ⟨rest, f o left right :: results⟩

/-- A number of turns, one after another. -/
inductive Turns (f : Operation → α → α → α) : Nat → LoopState α → LoopState α → Prop
  | refl {s : LoopState α} : Turns f 0 s s
  | turn {s t u : LoopState α} {n : Nat} : Turn f s t → Turns f n t u → Turns f (n + 1) s u

variable {s t u : LoopState α} {m n : Nat}

theorem Turns.trans (h : Turns f m s t) (h' : Turns f n t u) : Turns f (m + n) s u := by
  induction h with
  | refl => rwa [Nat.zero_add]
  | turn hturn _ ih =>
    rw [Nat.succ_add]
    exact .turn hturn (ih h')

/-! ## What a turn keeps and what it uses up -/

/-- The loop comes to the same after a turn as before it. -/
theorem Turn.run_eq (h : Turn f s t) :
    run f s.pending s.results = run f t.pending t.results := by
  cases h with
  | value => rw [run]
  | node => rw [run]
  | apply => rw [run]

/-- A turn is one step of the work. -/
theorem Turn.workLeft_eq (h : Turn f s t) : workLeft s.pending = workLeft t.pending + 1 := by
  cases h with
  | value =>
    simp only [workLeft, Task.steps, steps]
    omega
  | node =>
    simp only [workLeft, Task.steps, steps]
    omega
  | apply =>
    simp only [workLeft, Task.steps]
    omega

theorem Turns.run_eq (h : Turns f n s t) :
    run f s.pending s.results = run f t.pending t.results := by
  induction h with
  | refl => rfl
  | turn hturn _ ih => rw [hturn.run_eq, ih]

theorem Turns.workLeft_eq (h : Turns f n s t) :
    n + workLeft t.pending = workLeft s.pending := by
  induction h with
  | refl => exact Nat.zero_add _
  | turn hturn _ ih =>
    have hone := hturn.workLeft_eq
    omega

/-- A loop that comes to something goes on as long as there is work: only an operation that is
short of a value cannot be carried out, and then the loop comes to nothing. -/
theorem exists_turn_of_run {values : List α} (h : run f s.pending s.results = some values)
    (hpending : s.pending ≠ []) : ∃ t, Turn f s t := by
  obtain ⟨pending, results⟩ := s
  match pending, results, h with
  | [], _, _ => exact absurd rfl hpending
  | .visit (.value a) :: rest, results, _ => exact ⟨_, .value⟩
  | .visit (.node o l r) :: rest, results, _ => exact ⟨_, .node⟩
  | .apply o :: rest, right :: left :: results, _ => exact ⟨_, .apply⟩
  | .apply o :: rest, [], h | .apply o :: rest, [_], h =>
    rw [run] at h
    · cases h
    · simp

/-! ## The turns of a tree -/

/-- The work on a tree takes as many turns as it has steps, and puts its value on the results. -/
theorem turns_visit (f : Operation → α → α → α) (e : Expr α) (rest : List (Task α))
    (results : List α) :
    Turns f e.steps ⟨.visit e :: rest, results⟩ ⟨rest, e.fold f :: results⟩ := by
  induction e generalizing rest results with
  | value a => exact .turn .value .refl
  | node o l r ihl ihr =>
    -- one turn to take the tree apart, those of both sides, and one to put the values together
    have hsides := (ihl (.visit r :: .apply o :: rest) results).trans
      (ihr (.apply o :: rest) (l.fold f :: results))
    have happly : Turns f 1 ⟨.apply o :: rest, r.fold f :: l.fold f :: results⟩
        ⟨rest, f o (l.fold f) (r.fold f) :: results⟩ := .turn .apply .refl
    exact .turn .node (hsides.trans happly)

/-- The work on a tree puts its value on the results and leaves all else as it is. -/
theorem run_visit (f : Operation → α → α → α) (e : Expr α) (rest : List (Task α))
    (results : List α) : run f (.visit e :: rest) results = run f rest (e.fold f :: results) :=
  (turns_visit f e rest results).run_eq

/-- The loop gives the value by recursion. -/
theorem evaluate_eq (f : Operation → α → α → α) (e : Expr α) :
    e.evaluate? f = some (e.fold f) := by
  rw [evaluate?, run_visit, run]
  rfl

/-- **The loop reaches the value of its tree.**  For any meaning of the operations the loop on a
tree comes to an end after as many turns as the tree has steps, and all that is left then is the
value by recursion.  Wherever it stands on the way, the turns that were made and those that are left
add up to these, and as long as there is work it is not short of a value. -/
theorem loop_reaches_value (f : Operation → α → α → α) (e : Expr α) :
    Turns f e.steps ⟨[.visit e], []⟩ ⟨[], [e.fold f]⟩ ∧
      (∀ n s, Turns f n ⟨[.visit e], []⟩ s →
        n + workLeft s.pending = e.steps ∧ (s.pending = [] → s.results = [e.fold f]) ∧
          (s.pending ≠ [] → ∃ t, Turn f s t)) ∧
      run f [.visit e] [] = some [e.fold f] ∧ e.evaluate? f = some (e.fold f) := by
  have hrun : run f [.visit e] [] = some [e.fold f] := by rw [run_visit, run]
  refine ⟨turns_visit f e [] [], fun n s hturns => ⟨?_, fun hpending => ?_, fun hpending => ?_⟩,
    hrun, evaluate_eq f e⟩
  · exact hturns.workLeft_eq
  · have hdone : run f s.pending s.results = some [e.fold f] := hturns.run_eq.symm.trans hrun
    rw [hpending, run] at hdone
    exact Option.some.inj hdone
  · exact exists_turn_of_run (hturns.run_eq.symm.trans hrun) hpending

/-- The theorem at `2 - (9 - 4)`, with integers for numbers: after five of its seven turns all three
numbers wait for their operations, and the loop goes on. -/
theorem loop_reaches_value_grouped_right :
    let f : Operation → Int → Int → Int := fun _ a b => a - b
    let e : Expr Int := .node .subtraction (.value 2) (.node .subtraction (.value 9) (.value 4))
    let s : LoopState Int := ⟨[.apply .subtraction, .apply .subtraction], [4, 9, 2]⟩
    Turns f 5 ⟨[.visit e], []⟩ s ∧ s.pending ≠ [] ∧ (∃ t, Turn f s t) ∧
      e.evaluate? f = some (-3) := by
  intro f e s
  have hturns : Turns f 5 ⟨[.visit e], []⟩ s :=
    .turn .node (.turn .value (.turn .node (.turn .value (.turn .value .refl))))
  have hpending : s.pending ≠ [] := List.cons_ne_nil _ _
  obtain ⟨-, hloop, -, hvalue⟩ := loop_reaches_value f e
  exact ⟨hturns, hpending, (hloop 5 s hturns).2.2 hpending, hvalue⟩

end Expr

end DeskCalculator
