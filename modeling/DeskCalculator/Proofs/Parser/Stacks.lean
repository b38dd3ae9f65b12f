import DeskCalculator.Expr.Grammar
import DeskCalculator.Expr.Unbounded
import Mathlib.Data.List.TakeWhile

/-!
# The rules of the two stacks

What the steps of a parser without limits do, said once, so that no later proof opens them.

* `reduceAll` — applying a list of symbols from the left; `reduceWhile_eq` says that every
  reduction of the parser is one of these, with the symbols that `List.takeWhile` gives.
* `TwoStacks.Step` — what one token may do: one rule for an operand, for each of the two
  brackets, and for an operation.  `TwoStacks.step_eq_ok_iff` says that these are all.
* `TwoStacks.read` — what a list of tokens does.
* `length_reduceAll`, `TwoStacks.length_le_of_read` — how high the stacks are after that.
-/

namespace DeskCalculator

variable {α β γ ε : Type}

/-! ## Computations that may fail -/

@[simp] theorem ok_bind (a : α) (f : α → Except ε β) : (Except.ok a >>= f) = f a := rfl

@[simp] theorem error_bind (e : ε) (f : α → Except ε β) :
    ((Except.error e : Except ε α) >>= f) = .error e := rfl

@[simp] theorem map_ok (f : α → β) (a : α) : (Except.ok a : Except ε α).map f = .ok (f a) := rfl

@[simp] theorem map_error (f : α → β) (e : ε) : (Except.error e).map f = .error e := rfl

/-- A composed computation succeeds exactly when both parts do. -/
theorem bind_eq_ok {x : Except ε α} {f : α → Except ε β} {b : β} :
    x >>= f = .ok b ↔ ∃ a, x = .ok a ∧ f a = .ok b := by
  cases x with
  | error e => simp
  | ok a => simp

/-- A mapped computation succeeds exactly when the computation does. -/
theorem map_eq_ok {x : Except ε α} {f : α → β} {b : β} :
    x.map f = .ok b ↔ ∃ a, x = .ok a ∧ f a = b := by
  cases x with
  | error e => simp
  | ok a => simp

/-! ## The symbol of a token -/

/-- The symbol of a token is found only where the token is no operand. -/
theorem Token.isOperand_of_symbol {t : Token} {s : Symbol} (h : t.symbol? = some s) :
    t.isOperand = false := by
  unfold Token.symbol? at h
  split at h
  · exact absurd h (by simp)
  · rename_i hop
    simpa using hop

theorem Token.ofText_of_symbol {t : Token} {s : Symbol} (h : t.symbol? = some s) :
    Symbol.ofText? t.text = some s := by
  have hop := Token.isOperand_of_symbol h
  simpa [Token.symbol?, hop] using h

theorem Token.symbol_of_isOperand {t : Token} (h : t.isOperand = true) : t.symbol? = none := by
  simp [Token.symbol?, h]

theorem Token.symbol_of_not_isOperand {t : Token} (h : t.isOperand = false) :
    t.symbol? = Symbol.ofText? t.text := by
  simp [Token.symbol?, h]

/-- The operation of a symbol, unless it is a bracket. -/
def Symbol.operation? : Symbol → Option Operation
  | .operation o => some o
  | .opening | .closing => none

/-- The operation that a token stands for. -/
def Token.operation? (t : Token) : Option Operation := t.symbol?.bind Symbol.operation?

theorem Token.operation_of_symbol {t : Token} {s : Symbol} (h : t.symbol? = some s) :
    t.operation? = s.operation? := by
  rw [Token.operation?, h, Option.bind_some]

theorem Token.operation_of_isOperand {t : Token} (h : t.isOperand = true) :
    t.operation? = none := by
  rw [Token.operation?, Token.symbol_of_isOperand h, Option.bind_none]

/-! ## Reductions -/

@[simp] theorem reduceTop_operation (o : Operation) (l r : Expr α) (rest : List (Expr α)) :
    reduceTop (.operation o) (r :: l :: rest) = .ok (.node o l r :: rest) := rfl

/-- Only an operation with two trees on the stack can be applied. -/
theorem reduceTop_eq_ok {s : Symbol} {operands result : List (Expr α)}
    (h : reduceTop s operands = .ok result) :
    ∃ o l r rest, s = .operation o ∧ operands = r :: l :: rest ∧
      result = .node o l r :: rest := by
  match operands, s, h with
  | r :: l :: rest, .operation o, h =>
    rw [reduceTop_operation] at h
    cases h
    exact ⟨o, l, r, rest, rfl, rfl, rfl⟩

/-- Apply symbols one after another, each to the top two trees. -/
def reduceAll (symbols : List Symbol) (operands : List (Expr α)) :
    Except Failure (List (Expr α)) :=
  symbols.foldlM (fun operands s => reduceTop s operands) operands

@[simp] theorem reduceAll_nil (operands : List (Expr α)) : reduceAll [] operands = .ok operands :=
  rfl

@[simp] theorem reduceAll_cons (s : Symbol) (symbols : List Symbol) (operands : List (Expr α)) :
    reduceAll (s :: symbols) operands = reduceTop s operands >>= reduceAll symbols := rfl

theorem reduceAll_append (first second : List Symbol) (operands : List (Expr α)) :
    reduceAll (first ++ second) operands = reduceAll first operands >>= reduceAll second := by
  unfold reduceAll
  rw [List.foldlM_append]

/-- Each symbol that is applied makes one tree of two. -/
theorem length_reduceAll {symbols : List Symbol} {operands result : List (Expr α)}
    (h : reduceAll symbols operands = .ok result) :
    result.length + symbols.length = operands.length := by
  induction symbols generalizing operands with
  | nil =>
    cases h
    rfl
  | cons s symbols ih =>
    rw [reduceAll_cons] at h
    obtain ⟨reduced, htop, h⟩ := bind_eq_ok.1 h
    obtain ⟨o, l, r, rest, rfl, rfl, rfl⟩ := reduceTop_eq_ok htop
    have hlength := ih h
    simp only [List.length_cons] at hlength ⊢
    omega

namespace TwoStacks

/-- A conditional reduction applies the symbols up to the first that fails the condition. -/
theorem reduceWhile_eq (condition : Symbol → Bool) (operators : List Symbol)
    (operands : List (Expr α)) :
    reduceWhile condition operators operands =
      (reduceAll (operators.takeWhile condition) operands).map
        (TwoStacks.mk (operators.dropWhile condition)) := by
  induction operators generalizing operands with
  | nil => rfl
  | cons s waiting ih =>
    rw [reduceWhile]
    by_cases hs : condition s = true
    · rw [if_pos hs, List.takeWhile_cons_of_pos hs, List.dropWhile_cons_of_pos hs, reduceAll_cons]
      cases reduceTop s operands with
      | error e => rfl
      | ok reduced => exact ih reduced
    · rw [if_neg hs, List.takeWhile_cons_of_neg hs, List.dropWhile_cons_of_neg hs]
      rfl

/-- What an incoming symbol does: the waiting symbols that go before it are applied. -/
theorem pushSymbol_eq (st : TwoStacks α) (s : Symbol) :
    st.pushSymbol s =
      (reduceAll (st.operators.takeWhile (·.reducesBefore s)) st.operands).map
        (TwoStacks.mk (s :: st.operators.dropWhile (·.reducesBefore s))) := by
  unfold pushSymbol
  rw [reduceWhile_eq]
  cases reduceAll (st.operators.takeWhile (·.reducesBefore s)) st.operands with
  | error e => rfl
  | ok operands => rfl

/-- An opening bracket waits without anything being applied. -/
@[simp] theorem pushSymbol_opening (st : TwoStacks α) :
    st.pushSymbol .opening = .ok { st with operators := .opening :: st.operators } := by
  have hnone : ∀ s : Symbol, ¬ s.reducesBefore .opening = true := by
    intro s
    cases s <;> exact Bool.false_ne_true
  unfold pushSymbol
  cases hops : st.operators with
  | nil => rfl
  | cons s waiting =>
    rw [reduceWhile, if_neg (hnone s)]
    rfl

/-- What a closing bracket does. -/
theorem closeBracket_eq (st : TwoStacks α) :
    st.closeBracket =
      reduceAll (st.operators.takeWhile (· ≠ .opening)) st.operands >>= fun operands =>
        match st.operators.dropWhile (· ≠ .opening) with
        | [] => .error .mismatchedParentheses
        | _ :: waiting => .ok ⟨waiting, operands⟩ := by
  unfold closeBracket
  rw [reduceWhile_eq]
  cases reduceAll (st.operators.takeWhile (· ≠ .opening)) st.operands with
  | error e => rfl
  | ok operands => rfl

/-! ## One token -/

/-- What one token may do to the two stacks. -/
inductive Step (resolve : List Char → Except Failure α) (st : TwoStacks α) (t : Token) :
    TwoStacks α → Prop
  /-- The value of an operand is put on the trees. -/
  | operand {a : α} : t.isOperand = true → resolve t.text = .ok a →
      Step resolve st t { st with operands := .value a :: st.operands }
  /-- An opening bracket waits. -/
  | opening : t.symbol? = some .opening →
      Step resolve st t { st with operators := .opening :: st.operators }
  /-- An operation waits, and what goes before it is applied. -/
  | operation {o : Operation} {operands : List (Expr α)} : t.symbol? = some (.operation o) →
      reduceAll (st.operators.takeWhile (·.reducesBefore (.operation o))) st.operands =
        .ok operands →
      Step resolve st t
        ⟨.operation o :: st.operators.dropWhile (·.reducesBefore (.operation o)), operands⟩
  /-- A closing bracket applies everything back to its opening one, which is dropped. -/
  | closing {waiting : List Symbol} {operands : List (Expr α)} : t.symbol? = some .closing →
      st.operators.dropWhile (· ≠ .opening) = .opening :: waiting →
      reduceAll (st.operators.takeWhile (· ≠ .opening)) st.operands = .ok operands →
      Step resolve st t ⟨waiting, operands⟩

variable {resolve : List Char → Except Failure α} {st next : TwoStacks α} {t : Token}

theorem step_operand (h : t.isOperand = true) :
    step resolve st t =
      (resolve t.text).map fun a => { st with operands := .value a :: st.operands } := by
  unfold step
  rw [if_pos h]
  cases resolve t.text with
  | error e => rfl
  | ok a => rfl

theorem step_opening (h : t.symbol? = some .opening) :
    step resolve st t = .ok { st with operators := .opening :: st.operators } := by
  rw [step, if_neg (by simp [Token.isOperand_of_symbol h]), Token.ofText_of_symbol h]
  exact pushSymbol_opening st

theorem step_operation {o : Operation} (h : t.symbol? = some (.operation o)) :
    step resolve st t = st.pushSymbol (.operation o) := by
  rw [step, if_neg (by simp [Token.isOperand_of_symbol h]), Token.ofText_of_symbol h]

theorem step_closing (h : t.symbol? = some .closing) :
    step resolve st t = st.closeBracket := by
  rw [step, if_neg (by simp [Token.isOperand_of_symbol h]), Token.ofText_of_symbol h]

theorem step_unknown (hop : t.isOperand = false) (h : t.symbol? = none) :
    step resolve st t = .error (.unknownOperator t.text) := by
  rw [Token.symbol_of_not_isOperand hop] at h
  rw [step, if_neg (by simp [hop]), h]

/-- What is left of a list from the first opening bracket on begins with it. -/
theorem dropWhile_ne_opening {operators waiting : List Symbol} {s : Symbol}
    (h : operators.dropWhile (· ≠ .opening) = s :: waiting) : s = .opening := by
  have hhead := List.head?_dropWhile_not (· ≠ Symbol.opening) operators
  rw [h] at hhead
  simpa using hhead

/-- The rules say exactly when a step succeeds and what it gives. -/
theorem step_eq_ok_iff : step resolve st t = .ok next ↔ Step resolve st t next := by
  constructor
  · intro h
    cases hop : t.isOperand with
    | true =>
      rw [step_operand hop] at h
      obtain ⟨a, ha, rfl⟩ := map_eq_ok.1 h
      exact .operand hop ha
    | false =>
      cases hs : t.symbol? with
      | none =>
        rw [step_unknown hop hs] at h
        exact absurd h (by simp)
      | some s =>
        cases s with
        | opening =>
          rw [step_opening hs] at h
          cases h
          exact .opening hs
        | operation o =>
          rw [step_operation hs, pushSymbol_eq] at h
          obtain ⟨operands, hr, rfl⟩ := map_eq_ok.1 h
          exact .operation hs hr
        | closing =>
          rw [step_closing hs, closeBracket_eq] at h
          obtain ⟨operands, hr, h⟩ := bind_eq_ok.1 h
          cases hd : st.operators.dropWhile (· ≠ .opening) with
          | nil =>
            rw [hd] at h
            exact absurd h (by simp)
          | cons s waiting =>
            rw [hd] at h
            cases h
            rw [dropWhile_ne_opening hd] at hd
            exact .closing hs hd hr
  · intro h
    cases h with
    | operand hop ha => rw [step_operand hop, ha, map_ok]
    | opening hs => exact step_opening hs
    | operation hs hr => rw [step_operation hs, pushSymbol_eq, hr, map_ok]
    | closing hs hd hr => rw [step_closing hs, closeBracket_eq, hr, ok_bind, hd]

/-- One token makes neither stack higher by more than one. -/
theorem Step.length_le (h : Step resolve st t next) :
    next.operators.length ≤ st.operators.length + 1 ∧
      next.operands.length ≤ st.operands.length + 1 := by
  have hdrop : ∀ p : Symbol → Bool, (st.operators.dropWhile p).length ≤ st.operators.length :=
    fun p => (List.dropWhile_suffix p).length_le
  cases h with
  | operand => exact ⟨Nat.le_succ _, Nat.le_refl _⟩
  | opening => exact ⟨Nat.le_refl _, Nat.le_succ _⟩
  | @operation o operands hs hr =>
    have hlength := length_reduceAll hr
    have hoperands : operands.length ≤ st.operands.length := by omega
    exact ⟨Nat.succ_le_succ (hdrop _), Nat.le_succ_of_le hoperands⟩
  | @closing waiting operands hs hd hr =>
    have hlength := length_reduceAll hr
    have hoperands : operands.length ≤ st.operands.length := by omega
    have hwaiting := hdrop (· ≠ .opening)
    rw [hd, List.length_cons] at hwaiting
    exact ⟨Nat.le_succ_of_le (Nat.le_of_succ_le hwaiting), Nat.le_succ_of_le hoperands⟩

/-- The end of the tokens gives a tree exactly when no bracket waits and applying what waits
leaves this tree alone. -/
theorem finish_eq_ok_iff {e : Expr α} :
    st.finish = .ok e ↔
      (∀ s ∈ st.operators, s.isBracket = false) ∧ reduceAll st.operators st.operands = .ok [e] := by
  unfold finish
  rw [reduceWhile_eq]
  constructor
  · intro h
    obtain ⟨reduced, hreduced, h⟩ := bind_eq_ok.1 h
    obtain ⟨operands, hr, rfl⟩ := map_eq_ok.1 hreduced
    cases hd : st.operators.dropWhile (fun s => !s.isBracket) with
    | cons s waiting =>
      rw [hd] at h
      exact absurd h (by simp)
    | nil =>
      rw [hd] at h
      have hall : ∀ s ∈ st.operators, (!s.isBracket) = true := List.dropWhile_eq_nil_iff.1 hd
      refine ⟨fun s hs => by simpa using hall s hs, ?_⟩
      rw [List.takeWhile_eq_self_iff.2 hall] at hr
      match operands, hr, h with
      | [tree], hr, h =>
        cases h
        exact hr
  · rintro ⟨hall, hr⟩
    have hnot : ∀ s ∈ st.operators, (!s.isBracket) = true := fun s hs => by simp [hall s hs]
    rw [List.takeWhile_eq_self_iff.2 hnot, List.dropWhile_eq_nil_iff.2 hnot, hr]
    rfl

/-! ## A list of tokens -/

/-- Read tokens one after another. -/
def read (resolve : List Char → Except Failure α) (st : TwoStacks α) (tokens : List Token) :
    Except Failure (TwoStacks α) :=
  tokens.foldlM (step resolve) st

@[simp] theorem read_nil : read resolve st [] = .ok st := rfl

theorem read_cons (tokens : List Token) :
    read resolve st (t :: tokens) =
      step resolve st t >>= fun next => read resolve next tokens := rfl

@[simp] theorem read_singleton : read resolve st [t] = step resolve st t := by
  rw [read_cons]
  cases step resolve st t with
  | error e => rfl
  | ok next => rfl

theorem read_append (first second : List Token) :
    read resolve st (first ++ second) =
      read resolve st first >>= fun next => read resolve next second := by
  unfold read
  rw [List.foldlM_append]

/-- No stack gets higher than there are tokens. -/
theorem length_le_of_read {tokens : List Token} (h : read resolve st tokens = .ok next) :
    next.operators.length ≤ st.operators.length + tokens.length ∧
      next.operands.length ≤ st.operands.length + tokens.length := by
  induction tokens generalizing st with
  | nil =>
    cases h
    exact ⟨Nat.le_refl _, Nat.le_refl _⟩
  | cons t tokens ih =>
    rw [read_cons] at h
    obtain ⟨mid, ht, h⟩ := bind_eq_ok.1 h
    have hstep := (step_eq_ok_iff.1 ht).length_le
    have hrest := ih h
    rw [List.length_cons]
    exact ⟨by omega, by omega⟩

end TwoStacks

/-- A list that is not empty is read, and then what waits is applied. -/
theorem parseUnbounded_eq {resolve : List Char → Except Failure α} {tokens : List Token}
    (h : tokens ≠ []) :
    parseUnbounded resolve tokens = TwoStacks.read resolve {} tokens >>= TwoStacks.finish := by
  rw [parseUnbounded, if_neg (by simpa using h)]
  rfl

end DeskCalculator
