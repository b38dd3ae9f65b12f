import DeskCalculator.Expr.Parser
import DeskCalculator.Proofs.Parser.Stacks

/-!
# The parser does not look at the numbers

A number is put at a leaf of a tree and never looked at again.  So it makes no difference whether
the numbers are changed before the tokens are read or in the tree that comes out, and whether there
is a tree at all does not depend on them, also where the stacks have limits.

* `BoundedStack.map`, `ParseState.map` — the stacks with other numbers in them.
* `reduce_map`, `ParseState.step_map`, `ParseState.read_map`, `ParseState.finish_map` — what is done
  to the stacks can be done before the change or after it.
* `parse_map` — the same of the whole parser.
* `parse_congr` — so its result depends on what its operands stand for, and on nothing else.
-/

namespace DeskCalculator

variable {α β γ δ ε : Type}

/-! ## Changes of a result -/

/-- A change passes through a composed computation if it passes through both parts. -/
theorem bind_eq_map_bind {x : Except ε α} {x' : Except ε β} {k : α → Except ε γ}
    {k' : β → Except ε δ} {f : α → β} {g : γ → δ} (hx : x' = x.map f)
    (hk : ∀ a, k' (f a) = (k a).map g) : x' >>= k' = (x >>= k).map g := by
  subst hx
  cases x with
  | error e => rfl
  | ok a => exact hk a

theorem liftStack_map (f : α → β) (x : Except StackFailure α) :
    liftStack (x.map f) = (liftStack x).map f := by
  cases x with
  | error e => rfl
  | ok a => rfl

namespace Expr

/-- A tree in which nothing is changed is what it was. -/
theorem map_id (e : Expr α) : e.map id = e := by
  induction e with
  | value a => rfl
  | node o l r ihl ihr => rw [map, ihl, ihr]

theorem combine?_map (f : α → β) (s : Symbol) (l r : Expr α) :
    combine? s (l.map f) (r.map f) = (combine? s l r).map (map f) := by
  cases s with
  | operation o => rfl
  | opening | closing => rfl

end Expr

/-! ## One stack -/

namespace BoundedStack

/-- A stack with each of its elements changed, and with the room that it had. -/
def map (f : α → β) (s : BoundedStack α) : BoundedStack β :=
  { s with
    items := s.items.map f
    size_eq := by simp [s.size_eq] }

variable {f : α → β} {s : BoundedStack α}

theorem map_new? (f : α → β) (limits : StackLimits) :
    (new? limits).map (map f) = new? limits := by
  unfold new?
  split
  · rfl
  · split
    · rfl
    · split
      · rfl
      · rfl

/-- Whether a push finds room does not depend on what is in the stack. -/
theorem push?_map (f : α → β) (s : BoundedStack α) (a : α) :
    (s.map f).push? (f a) = (s.push? a).map (map f) := by
  have hroom : (s.map f).size = (s.map f).capacity ↔ s.size = s.capacity := Iff.rfl
  unfold push?
  by_cases hfull : s.size = s.capacity
  · rw [if_pos hfull, if_pos (hroom.2 hfull)]
    have hrange : largestCapacity < (s.map f).capacity + (s.map f).growth ↔
        largestCapacity < s.capacity + s.growth := Iff.rfl
    unfold grow?
    by_cases hlarge : largestCapacity < s.capacity + s.growth
    · rw [if_pos hlarge, if_pos (hrange.2 hlarge)]
      rfl
    · rw [if_neg hlarge, if_neg (mt hrange.1 hlarge)]
      rfl
  · rw [if_neg hfull, if_neg (mt hroom.1 hfull)]
    rfl

theorem dropTop_map (n : Nat) : (s.map f).dropTop n = (s.dropTop n).map f := by
  simp only [dropTop, map, List.map_drop]

theorem pop_map : (s.map f).pop = (s.pop.1.map f, s.pop.2.map f) := by
  rw [pop, dropTop_map]
  simp [pop, peek, map]

theorem isEmpty_map : (s.map f).isEmpty = s.isEmpty := by
  simp [isEmpty, map]

end BoundedStack

/-! ## Reductions -/

variable {f : α → β} {operands : Operands α}

theorem reduce_map (f : α → β) (operands : Operands α) (s : Symbol) :
    reduce (operands.map (Expr.map f)) s =
      (reduce operands s).map (BoundedStack.map (Expr.map f)) := by
  unfold reduce
  simp only [BoundedStack.pop_map]
  cases operands.pop.1 with
  | none =>
    cases operands.pop.2.pop.1 with
    | none => rfl
    | some left => rfl
  | some right =>
    cases operands.pop.2.pop.1 with
    | none => rfl
    | some left =>
      refine bind_eq_map_bind (Expr.combine?_map f s left right) fun e => ?_
      rw [BoundedStack.push?_map, liftStack_map]

/-- As many symbols are applied before the change as after it. -/
theorem reduceWhile_map (f : α → β) (condition : Symbol → Bool) (waiting : List Symbol)
    (operands : Operands α) :
    reduceWhile condition waiting (operands.map (Expr.map f)) =
      (reduceWhile condition waiting operands).map
        (Prod.map id (BoundedStack.map (Expr.map f))) := by
  induction waiting generalizing operands with
  | nil => rfl
  | cons s waiting ih =>
    rw [reduceWhile, reduceWhile]
    by_cases hs : condition s = true
    · rw [if_pos hs, if_pos hs]
      refine bind_eq_map_bind (reduce_map f operands s) fun reduced => ?_
      exact bind_eq_map_bind (ih reduced) fun _ => rfl
    · rw [if_neg hs, if_neg hs]
      rfl

/-! ## The state of the parser -/

namespace ParseState

/-- The state with each number changed. -/
def map (f : α → β) (st : ParseState α) : ParseState β :=
  ⟨st.operators, st.operands.map (Expr.map f)⟩

variable {st : ParseState α}

theorem start_map (f : α → β) (limits : StackLimits) :
    start limits = (start limits).map (map f) := by
  have hoperands : liftStack (BoundedStack.new? limits) =
      (liftStack (BoundedStack.new? limits)).map (BoundedStack.map (Expr.map f)) := by
    rw [← liftStack_map, BoundedStack.map_new?]
  unfold start
  cases liftStack (BoundedStack.new? (α := Symbol) limits) with
  | error e => rfl
  | ok operators =>
    rw [ok_bind, ok_bind]
    exact bind_eq_map_bind hoperands fun _ => rfl

theorem pushValue_map (a : α) : (st.map f).pushValue (f a) = (st.pushValue a).map (map f) := by
  have hpush : liftStack ((st.map f).operands.push? (.value (f a))) =
      (liftStack (st.operands.push? (.value a))).map (BoundedStack.map (Expr.map f)) := by
    rw [← liftStack_map, ← BoundedStack.push?_map]
    rfl
  exact bind_eq_map_bind hpush fun _ => rfl

theorem closeBracket_map : (st.map f).closeBracket = st.closeBracket.map (map f) := by
  refine bind_eq_map_bind (reduceWhile_map f _ _ _) ?_
  rintro ⟨applied, operands⟩
  show (if (st.operators.dropTop applied).isEmpty then _ else _) =
    (if (st.operators.dropTop applied).isEmpty then _ else _ : Except _ _).map (map f)
  by_cases hempty : (st.operators.dropTop applied).isEmpty = true
  · rw [if_pos hempty, if_pos hempty]
    rfl
  · rw [if_neg hempty, if_neg hempty]
    rfl

theorem pushSymbol_map (s : Symbol) : (st.map f).pushSymbol s = (st.pushSymbol s).map (map f) := by
  refine bind_eq_map_bind (reduceWhile_map f _ _ _) ?_
  rintro ⟨applied, operands⟩
  simp only [Prod.map, id, map]
  cases liftStack ((st.operators.dropTop applied).push? s) with
  | error e => rfl
  | ok operators => rfl

/-- What one token does can be done before the change or after it, if its value is changed too. -/
theorem step_map {resolve : List Char → Except Failure α} {resolve' : List Char → Except Failure β}
    {t : Token} (ht : t.isOperand = true → resolve' t.text = (resolve t.text).map f) :
    (st.map f).step resolve' t = (st.step resolve t).map (map f) := by
  unfold step
  by_cases hop : t.isOperand = true
  · rw [if_pos hop, if_pos hop]
    exact bind_eq_map_bind (ht hop) fun a => pushValue_map a
  · rw [if_neg hop, if_neg hop]
    cases Symbol.ofText? t.text with
    | none => rfl
    | some s =>
      cases s with
      | operation o => exact pushSymbol_map (.operation o)
      | opening => exact pushSymbol_map .opening
      | closing => exact closeBracket_map

/-- So can what a list of tokens does. -/
theorem read_map {resolve : List Char → Except Failure α} {resolve' : List Char → Except Failure β}
    {tokens : List Token}
    (htokens : ∀ t ∈ tokens, t.isOperand = true → resolve' t.text = (resolve t.text).map f) :
    tokens.foldlM (step resolve') (st.map f) =
      (tokens.foldlM (step resolve) st).map (map f) := by
  induction tokens generalizing st with
  | nil => rfl
  | cons t rest ih =>
    obtain ⟨ht, hrest⟩ := List.forall_mem_cons.1 htokens
    rw [List.foldlM_cons, List.foldlM_cons]
    exact bind_eq_map_bind (step_map ht) fun _ => ih hrest

theorem drain_map : (st.map f).drain = st.drain.map (map f) := by
  refine bind_eq_map_bind (reduceWhile_map f _ _ _) ?_
  rintro ⟨applied, operands⟩
  show (if (st.operators.dropTop applied).isEmpty then _ else _) =
    (if (st.operators.dropTop applied).isEmpty then _ else _ : Except _ _).map (map f)
  by_cases hempty : (st.operators.dropTop applied).isEmpty = true
  · rw [if_pos hempty, if_pos hempty]
    rfl
  · rw [if_neg hempty, if_neg hempty]
    rfl

theorem finish_map : (st.map f).finish = st.finish.map (Expr.map f) := by
  unfold finish
  have hpop : (st.map f).operands.pop =
      (st.operands.pop.1.map (Expr.map f), st.operands.pop.2.map (Expr.map f)) :=
    BoundedStack.pop_map
  rw [hpop]
  cases hfirst : st.operands.pop.1 with
  | none =>
    have hnone : st.operands.pop = (none, st.operands.pop.2) := Prod.ext hfirst rfl
    rw [hnone]
    rfl
  | some e =>
    have hsome : st.operands.pop = (some e, st.operands.pop.2) := Prod.ext hfirst rfl
    rw [hsome]
    simp only [Option.map_some, BoundedStack.isEmpty_map]
    split
    · rfl
    · rfl

end ParseState

/-! ## All tokens -/

section Parse

variable {resolve : List Char → Except Failure α} {tokens : List Token}

/-- **The parser does not look at the numbers.**  If the operands stand for changed numbers, the
tree is the one with each number changed, and where there is none, the failure is the same. -/
theorem parse_map {resolve' : List Char → Except Failure β} (limits : StackLimits) (f : α → β)
    (htokens : ∀ t ∈ tokens, t.isOperand = true → resolve' t.text = (resolve t.text).map f) :
    parse limits resolve' tokens = (parse limits resolve tokens).map (Expr.map f) := by
  have hread : readTokens limits resolve' tokens =
      (readTokens limits resolve tokens).map (ParseState.map f) :=
    bind_eq_map_bind (ParseState.start_map f limits) fun _ => ParseState.read_map htokens
  unfold parse
  split
  · rfl
  · refine bind_eq_map_bind hread fun st => ?_
    exact bind_eq_map_bind ParseState.drain_map fun _ => ParseState.finish_map

/-- The parser depends on the values of the operands in its list, and on no others. -/
theorem parse_congr {resolve' : List Char → Except Failure α} (limits : StackLimits)
    (htokens : ∀ t ∈ tokens, t.isOperand = true → resolve' t.text = resolve t.text) :
    parse limits resolve' tokens = parse limits resolve tokens := by
  have hid : ∀ x : Except Failure α, x.map id = x := by
    intro x
    cases x with
    | error e => rfl
    | ok a => rfl
  have hmap : parse limits resolve' tokens = (parse limits resolve tokens).map (Expr.map id) := by
    apply parse_map limits
    intro t ht hop
    rw [hid, htokens t ht hop]
  rw [hmap]
  cases parse limits resolve tokens with
  | error e => rfl
  | ok e => rw [map_ok, Expr.map_id]

end Parse

end DeskCalculator
