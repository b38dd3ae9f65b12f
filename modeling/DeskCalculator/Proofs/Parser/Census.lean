import DeskCalculator.Proofs.Parser.Room
import DeskCalculator.Session
import Mathlib.Data.List.Perm.Basic

/-!
# Nothing is lost on the two stacks

Every value and every operation that was read is still there, once and in its place: the values
at the leaves of the trees, from the bottom of the stack to its top and in each tree from left
to right, are those of the operands in the order in which they were read, and the operations in
the trees and among the waiting symbols are those that were read.

* `stackLeaves` — the leaves of a stack of trees in the order of the source.
* `TwoStacks.operations` — the operations that wait or are in a tree.
* `TwoStacks.leaves_step`, `TwoStacks.operations_step` — what one token adds to both.
* `leaves_parseUnbounded`, `operations_parseUnbounded` — the same for a whole list and its tree.
-/

namespace DeskCalculator

variable {α : Type}

/-! ## What there is to count -/

/-- The operands of a list of tokens, in order. -/
def operandTokens (tokens : List Token) : List Token := tokens.filter Token.isOperand

/-- The operations of a list of tokens, in order. -/
def operationsOf (tokens : List Token) : List Operation := tokens.filterMap Token.operation?

/-- What the operands of a list of tokens stand for, in order. -/
def operandValues (resolve : List Char → Except Failure α) (tokens : List Token) :
    List (Except Failure α) :=
  (operandTokens tokens).map fun t => resolve t.text

/-- The numbers in a stack of trees in the order of the source, the lowest tree first. -/
def stackLeaves (operands : List (Expr α)) : List α := operands.reverse.flatMap Expr.leaves

/-- The operations in a stack of trees. -/
def stackOperations (operands : List (Expr α)) : List Operation := operands.flatMap Expr.operations

@[simp] theorem stackLeaves_nil : stackLeaves ([] : List (Expr α)) = [] := rfl

@[simp] theorem stackLeaves_cons (e : Expr α) (rest : List (Expr α)) :
    stackLeaves (e :: rest) = stackLeaves rest ++ e.leaves := by
  simp [stackLeaves]

@[simp] theorem stackOperations_nil : stackOperations ([] : List (Expr α)) = [] := rfl

@[simp] theorem stackOperations_cons (e : Expr α) (rest : List (Expr α)) :
    stackOperations (e :: rest) = e.operations ++ stackOperations rest := rfl

theorem operandValues_append (resolve : List Char → Except Failure α)
    (first second : List Token) :
    operandValues resolve (first ++ second) =
      operandValues resolve first ++ operandValues resolve second := by
  simp [operandValues, operandTokens]

theorem operationsOf_append (first second : List Token) :
    operationsOf (first ++ second) = operationsOf first ++ operationsOf second :=
  List.filterMap_append

/-! ## One token -/

/-- Applying symbols leaves the numbers as they are. -/
theorem stackLeaves_reduceAll {symbols : List Symbol} {operands result : List (Expr α)}
    (h : reduceAll symbols operands = .ok result) : stackLeaves result = stackLeaves operands := by
  induction symbols generalizing operands with
  | nil =>
    cases h
    rfl
  | cons s symbols ih =>
    rw [reduceAll_cons] at h
    obtain ⟨reduced, hs, h⟩ := bind_eq_ok.1 h
    obtain ⟨o, l, r, rest, rfl, rfl, rfl⟩ := reduceTop_eq_ok hs
    rw [ih h]
    simp [Expr.leaves]

/-- Applying symbols moves their operations into the trees. -/
theorem stackOperations_reduceAll {symbols : List Symbol} {operands result : List (Expr α)}
    (h : reduceAll symbols operands = .ok result) :
    (stackOperations result).Perm
      (symbols.filterMap Symbol.operation? ++ stackOperations operands) := by
  induction symbols generalizing operands with
  | nil =>
    cases h
    exact .refl _
  | cons s symbols ih =>
    rw [reduceAll_cons] at h
    obtain ⟨reduced, hs, h⟩ := bind_eq_ok.1 h
    obtain ⟨o, l, r, rest, rfl, rfl, rfl⟩ := reduceTop_eq_ok hs
    refine (ih h).trans ?_
    show List.Perm _
      (o :: (symbols.filterMap Symbol.operation? ++ stackOperations (r :: l :: rest)))
    -- the operation leaves the symbols and stands between those of its two sides
    refine (List.Perm.append_left _ ?_).trans List.perm_middle
    show (l.operations ++ o :: r.operations ++ stackOperations rest).Perm
      (o :: (r.operations ++ (l.operations ++ stackOperations rest)))
    rw [List.append_assoc, List.cons_append]
    refine List.perm_middle.trans (.cons o ?_)
    rw [← List.append_assoc, ← List.append_assoc]
    exact List.perm_append_comm.append_right _

namespace TwoStacks

variable {resolve : List Char → Except Failure α} {st next : TwoStacks α} {t : Token}

/-- The operations that wait, and those in the trees. -/
def operations (st : TwoStacks α) : List Operation :=
  st.operators.filterMap Symbol.operation? ++ stackOperations st.operands

/-- An operand adds its value behind all others; no other token changes the values. -/
theorem leaves_step (h : Step resolve st t next) :
    (stackLeaves next.operands).map .ok =
      (stackLeaves st.operands).map .ok ++ operandValues resolve [t] := by
  cases h with
  | operand hop ha => simp [operandValues, operandTokens, hop, ha, Expr.leaves]
  | opening hs => simp [operandValues, operandTokens, Token.isOperand_of_symbol hs]
  | operation hs hr | closing hs _ hr =>
    simp [operandValues, operandTokens, Token.isOperand_of_symbol hs, stackLeaves_reduceAll hr]

/-- Symbols that are applied are counted in the trees and no longer among the waiting ones. -/
theorem operations_reduceAll {condition : Symbol → Bool} {operands : List (Expr α)}
    (h : reduceAll (st.operators.takeWhile condition) st.operands = .ok operands) :
    ((st.operators.dropWhile condition).filterMap Symbol.operation? ++
      stackOperations operands).Perm st.operations := by
  have hsplit : st.operators.filterMap Symbol.operation? =
      (st.operators.takeWhile condition).filterMap Symbol.operation? ++
        (st.operators.dropWhile condition).filterMap Symbol.operation? := by
    rw [← List.filterMap_append, List.takeWhile_append_dropWhile]
  rw [operations, hsplit]
  refine (List.Perm.append_left _ (stackOperations_reduceAll h)).trans ?_
  rw [← List.append_assoc]
  exact List.perm_append_comm.append_right _

/-- An operation is counted once from when it is read; no other token changes the count. -/
theorem operations_step (h : Step resolve st t next) :
    next.operations.Perm (operationsOf [t] ++ st.operations) := by
  cases h with
  | operand hop ha =>
    simp [operations, operationsOf, Token.operation_of_isOperand hop, Expr.operations]
  | opening hs =>
    have hop : operationsOf [t] = [] := by
      simp [operationsOf, Token.operation_of_symbol hs, Symbol.operation?]
    rw [hop]
    exact .refl _
  | @operation o operands hs hr =>
    have hop : operationsOf [t] = [o] := by
      simp [operationsOf, Token.operation_of_symbol hs, Symbol.operation?]
    rw [hop]
    exact (operations_reduceAll hr).cons o
  | @closing waiting operands hs hd hr =>
    have hop : operationsOf [t] = [] := by
      simp [operationsOf, Token.operation_of_symbol hs, Symbol.operation?]
    have hperm := operations_reduceAll hr
    rw [hd, List.filterMap_cons_none rfl] at hperm
    rw [hop]
    exact hperm

/-! ## All tokens -/

theorem leaves_read {tokens : List Token} (h : read resolve st tokens = .ok next) :
    (stackLeaves next.operands).map .ok =
      (stackLeaves st.operands).map .ok ++ operandValues resolve tokens := by
  induction tokens generalizing st with
  | nil =>
    cases h
    simp [operandValues, operandTokens]
  | cons t rest ih =>
    rw [read_cons] at h
    obtain ⟨mid, ht, h⟩ := bind_eq_ok.1 h
    rw [ih h, leaves_step (step_eq_ok_iff.1 ht), List.append_assoc, ← operandValues_append,
      List.singleton_append]

theorem operations_read {tokens : List Token} (h : read resolve st tokens = .ok next) :
    next.operations.Perm (operationsOf tokens ++ st.operations) := by
  induction tokens generalizing st with
  | nil =>
    cases h
    exact .refl _
  | cons t rest ih =>
    rw [read_cons] at h
    obtain ⟨mid, ht, h⟩ := bind_eq_ok.1 h
    rw [← List.singleton_append, operationsOf_append]
    refine (ih h).trans ((List.Perm.append_left _ (operations_step (step_eq_ok_iff.1 ht))).trans ?_)
    rw [← List.append_assoc]
    exact List.perm_append_comm.append_right _

/-- The tree that is left at the end holds all values and all operations. -/
theorem census_finish {e : Expr α} (h : st.finish = .ok e) :
    e.leaves = stackLeaves st.operands ∧ e.operations.Perm st.operations := by
  obtain ⟨-, hr⟩ := finish_eq_ok_iff.1 h
  constructor
  · simpa using stackLeaves_reduceAll hr
  · simpa [operations] using stackOperations_reduceAll hr

end TwoStacks

section Unbounded

variable {resolve : List Char → Except Failure α} {tokens : List Token} {e : Expr α}

/-- A list that gives a tree is not empty. -/
theorem ne_nil_of_parseUnbounded (h : parseUnbounded resolve tokens = .ok e) : tokens ≠ [] := by
  rintro rfl
  cases h

theorem leaves_parseUnbounded (h : parseUnbounded resolve tokens = .ok e) :
    e.leaves.map .ok = operandValues resolve tokens := by
  rw [parseUnbounded_eq (ne_nil_of_parseUnbounded h)] at h
  obtain ⟨st, hread, hfinish⟩ := bind_eq_ok.1 h
  rw [(TwoStacks.census_finish hfinish).1, TwoStacks.leaves_read hread]
  rfl

theorem operations_parseUnbounded (h : parseUnbounded resolve tokens = .ok e) :
    e.operations.Perm (operationsOf tokens) := by
  rw [parseUnbounded_eq (ne_nil_of_parseUnbounded h)] at h
  obtain ⟨st, hread, hfinish⟩ := bind_eq_ok.1 h
  have hperm := TwoStacks.operations_read hread
  rw [show TwoStacks.operations ({} : TwoStacks α) = [] from rfl, List.append_nil] at hperm
  exact (TwoStacks.census_finish hfinish).2.trans hperm

end Unbounded

/-- The operations of a list of tokens are its symbols that are no brackets. -/
theorem map_operationsOf (tokens : List Token) :
    (operationsOf tokens).map Symbol.operation =
      (tokens.filterMap Token.symbol?).filter fun s => !s.isBracket := by
  induction tokens with
  | nil => rfl
  | cons t rest ih =>
    rw [operationsOf] at ih ⊢
    cases hs : t.symbol? with
    | none =>
      rw [List.filterMap_cons_none (by simp [Token.operation?, hs]),
        List.filterMap_cons_none hs, ih]
    | some s =>
      rw [List.filterMap_cons_some hs]
      cases s with
      | operation o =>
        rw [List.filterMap_cons_some (b := o) (Token.operation_of_symbol hs),
          List.map_cons, ih]
        rfl
      | opening | closing =>
        rw [List.filterMap_cons_none (Token.operation_of_symbol hs), ih]
        rfl

/-- **Nothing is lost, doubled or moved.**  Whatever list of tokens gives a tree, be it written
in the usual order or not: the leaves of the tree from left to right are the values of the
operands in the order of the source, the symbols at its nodes are those of the list that are
no brackets, in some order, and there is one more operand than operations. -/
theorem tokens_conserved {limits : StackLimits} {last? : Option Float} {tokens : List Token}
    {e : Expr Float} (h : parseTokens limits last? tokens = .ok e) :
    (operandTokens tokens).map (fun t => resolve last? t.text) = e.leaves.map .ok ∧
      (e.operations.map Symbol.operation).Perm
        ((tokens.filterMap Token.symbol?).filter fun s => !s.isBracket) ∧
      (operandTokens tokens).length = (operationsOf tokens).length + 1 := by
  have hunbounded := parseUnbounded_of_parse h
  have hleaves := leaves_parseUnbounded hunbounded
  have hoperations := operations_parseUnbounded hunbounded
  refine ⟨hleaves.symm, ?_, ?_⟩
  · rw [← map_operationsOf]
    exact hoperations.map _
  · have hlength := congrArg List.length hleaves
    rw [operandValues, List.length_map, List.length_map] at hlength
    rw [← hlength, ← hoperations.length_eq, e.length_leaves]

/-- The theorem at `2 ( 3 - ans ) *`, where the second operation stands behind both its sides. -/
theorem tokens_conserved_postfix :
    let tokens : List Token :=
      [⟨.number, ['2'], 0⟩, ⟨.symbol, ['('], 2⟩, ⟨.number, ['3'], 4⟩, ⟨.symbol, ['-'], 6⟩,
        ⟨.identifier, ['a', 'n', 's'], 8⟩, ⟨.symbol, [')'], 12⟩, ⟨.symbol, ['*'], 14⟩]
    let e : Expr Float :=
      .node .multiplication (.value (literalValue ['2']))
        (.node .subtraction (.value (literalValue ['3'])) (.value 5.0))
    parseTokens {} (some 5.0) tokens = .ok e ∧
      (operandTokens tokens).map (fun t => resolve (some 5.0) t.text) = e.leaves.map .ok ∧
      (e.operations.map Symbol.operation).Perm
        ((tokens.filterMap Token.symbol?).filter fun s => !s.isBracket) ∧
      (operandTokens tokens).length = (operationsOf tokens).length + 1 :=
  ⟨rfl, tokens_conserved (show parseTokens {} (some 5.0) _ = .ok _ from rfl)⟩

end DeskCalculator
