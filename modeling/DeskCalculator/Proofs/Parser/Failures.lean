import DeskCalculator.Proofs.Parser.Census

/-!
# Why a list of tokens gives no tree

The parser fails for few reasons, and which of them are possible can be told by counting: how
many operands and how many operations there are, and whether the brackets have their partners.

* `TwoStacks.Fault` — why a token cannot be read; `TwoStacks.fault_of_step` says that there is no
  other reason, as long as no closing bracket waits, and none ever does.
* `TwoStacks.openings` — the brackets that wait for their partner are those that
  `bracketDepth?` counts.
* `ParseFault` — why a list gives no tree, said of the list alone; `parseFault_of_error`.
* `failure_by_counting` — what is left of this if all tokens can be read.
-/

namespace DeskCalculator

variable {α β γ ε : Type}

/-! ## Computations that fail -/

/-- A composed computation fails exactly when one of its parts does. -/
theorem bind_eq_error {x : Except ε α} {f : α → Except ε β} {e : ε} :
    x >>= f = .error e ↔ x = .error e ∨ ∃ a, x = .ok a ∧ f a = .error e := by
  cases x with
  | error e => simp
  | ok a => simp

/-- A mapped computation fails exactly when the computation does. -/
theorem map_eq_error {x : Except ε α} {f : α → β} {e : ε} :
    x.map f = .error e ↔ x = .error e := by
  cases x with
  | error e => simp
  | ok a => simp

/-- A computation fails, and the failure is of exactly this kind. -/
def FailsAs (x : Except Failure β) (k : FailureKind) : Prop := ∃ e, x = .error e ∧ e.kind = k

theorem FailsAs.unique {x : Except Failure β} {j k : FailureKind} (hj : FailsAs x j)
    (hk : FailsAs x k) : j = k := by
  obtain ⟨e, rfl, rfl⟩ := hj
  obtain ⟨e', he', rfl⟩ := hk
  cases he'
  rfl

theorem FailsAs.ne_ok {x : Except Failure β} {k : FailureKind} (h : FailsAs x k) (b : β) :
    x ≠ .ok b := by
  obtain ⟨e, rfl, -⟩ := h
  simp

/-! ## The depth of the brackets -/

section Depth

variable {t : Token} {rest : List Token} {depth : Nat}

theorem bracketDepth?_opening (h : t.symbol? = some .opening) :
    bracketDepth? depth (t :: rest) = bracketDepth? (depth + 1) rest := by
  simp only [bracketDepth?, h]

theorem bracketDepth?_closing (h : t.symbol? = some .closing) :
    bracketDepth? (depth + 1) (t :: rest) = bracketDepth? depth rest := by
  simp only [bracketDepth?, h]

theorem bracketDepth?_unopened (h : t.symbol? = some .closing) :
    bracketDepth? 0 (t :: rest) = none := by
  simp only [bracketDepth?, h]

/-- What is no bracket does not change the depth. -/
theorem bracketDepth?_cons (hopening : t.symbol? ≠ some .opening)
    (hclosing : t.symbol? ≠ some .closing) :
    bracketDepth? depth (t :: rest) = bracketDepth? depth rest := by
  cases hs : t.symbol? with
  | none => simp only [bracketDepth?, hs]
  | some s =>
    cases s with
    | operation o => simp only [bracketDepth?, hs]
    | opening => exact absurd hs hopening
    | closing => exact absurd hs hclosing

end Depth

/-! ## Reductions that fail -/

theorem Symbol.operation_of_not_isBracket {s : Symbol} (h : s.isBracket = false) :
    ∃ o, s = .operation o := by
  cases s with
  | operation o => exact ⟨o, rfl⟩
  | opening | closing => cases h

theorem Symbol.operation_of_reducesBefore {s incoming : Symbol}
    (h : s.reducesBefore incoming = true) : ∃ o, s = .operation o := by
  cases s with
  | operation o => exact ⟨o, rfl⟩
  | opening | closing => cases h

/-- What is applied before a symbol comes are operations. -/
theorem operations_of_takeWhile_reducesBefore (symbols : List Symbol) (incoming : Symbol) :
    ∀ s ∈ symbols.takeWhile (·.reducesBefore incoming), ∃ o, s = .operation o := by
  intro s hs
  have hreduces : s.reducesBefore incoming = true :=
    List.mem_takeWhile_imp (p := fun s : Symbol => s.reducesBefore incoming) hs
  exact Symbol.operation_of_reducesBefore hreduces

/-- What is applied at the end, up to a bracket, are operations. -/
theorem operations_of_takeWhile_not_isBracket (symbols : List Symbol) :
    ∀ s ∈ symbols.takeWhile (fun s => !s.isBracket), ∃ o, s = .operation o := by
  intro s hs
  have hbracket : s.isBracket = false := by simpa using List.mem_takeWhile_imp hs
  exact Symbol.operation_of_not_isBracket hbracket

/-- Applying operations fails only for want of a tree. -/
theorem reduceAll_eq_error {symbols : List Symbol} {operands : List (Expr α)} {e : Failure}
    (hsymbols : ∀ s ∈ symbols, ∃ o, s = .operation o)
    (h : reduceAll symbols operands = .error e) :
    ∃ o, .operation o ∈ symbols ∧ e = .missingOperandOf (.operation o) := by
  induction symbols generalizing operands with
  | nil => cases h
  | cons s symbols ih =>
    obtain ⟨o, rfl⟩ := hsymbols s List.mem_cons_self
    rw [reduceAll_cons] at h
    rcases bind_eq_error.1 h with htop | ⟨reduced, -, hrest⟩
    · refine ⟨o, List.mem_cons_self, ?_⟩
      match operands, htop with
      | [], htop | [_], htop =>
        cases htop
        rfl
    · obtain ⟨p, hp, he⟩ := ih (fun s hs => hsymbols s (List.mem_cons_of_mem _ hs)) hrest
      exact ⟨p, List.mem_cons_of_mem _ hp, he⟩

/-- A stack of trees has one more number than operations for each tree. -/
theorem length_stackLeaves (operands : List (Expr α)) :
    (stackLeaves operands).length = (stackOperations operands).length + operands.length := by
  induction operands with
  | nil => rfl
  | cons e rest ih =>
    have he := e.length_leaves
    rw [stackLeaves_cons, stackOperations_cons, List.length_append, List.length_append,
      List.length_cons]
    omega

namespace TwoStacks

variable {resolve : List Char → Except Failure α} {st next : TwoStacks α} {t : Token}
  {tokens rest : List Token} {e : Failure}

/-! ## What waits -/

/-- No closing bracket ever waits. -/
theorem no_closing_step (hst : .closing ∉ st.operators) (h : Step resolve st t next) :
    .closing ∉ next.operators := by
  have hdrop : ∀ p : Symbol → Bool, .closing ∉ st.operators.dropWhile p :=
    fun p hmem => hst (List.dropWhile_subset p hmem)
  cases h with
  | operand => exact hst
  | opening hs => simpa using hst
  | operation hs hr => simpa using hdrop _
  | @closing waiting operands hs hd hr =>
    have hwaiting := hdrop (· ≠ .opening)
    rw [hd] at hwaiting
    exact fun hmem => hwaiting (List.mem_cons_of_mem _ hmem)

theorem no_closing_read (hst : .closing ∉ st.operators) (h : read resolve st tokens = .ok next) :
    .closing ∉ next.operators := by
  induction tokens generalizing st with
  | nil =>
    cases h
    exact hst
  | cons t rest ih =>
    rw [read_cons] at h
    obtain ⟨mid, ht, h⟩ := bind_eq_ok.1 h
    exact ih (no_closing_step hst (step_eq_ok_iff.1 ht)) h

/-- Up to the topmost opening bracket only operations wait. -/
theorem operations_of_takeWhile (hst : .closing ∉ st.operators) :
    ∀ s ∈ st.operators.takeWhile (· ≠ .opening), ∃ o, s = .operation o := by
  intro s hs
  have hne : s ≠ .opening := by simpa using List.mem_takeWhile_imp hs
  have hmem : s ∈ st.operators := List.takeWhile_subset _ hs
  cases s with
  | operation o => exact ⟨o, rfl⟩
  | opening => exact absurd rfl hne
  | closing => exact absurd hmem hst

/-- How many opening brackets wait. -/
def openings (st : TwoStacks α) : Nat := st.operators.count .opening

/-- An opening bracket stays as long as operations are dropped. -/
theorem count_opening_dropWhile {p : Symbol → Bool} (hp : p .opening = false)
    (operators : List Symbol) :
    (operators.dropWhile p).count .opening = operators.count .opening := by
  induction operators with
  | nil => rfl
  | cons s operators ih =>
    by_cases hs : p s = true
    · have hne : s ≠ .opening := by
        rintro rfl
        rw [hp] at hs
        cases hs
      rw [List.dropWhile_cons_of_pos hs, ih, List.count_cons_of_ne hne]
    · rw [List.dropWhile_cons_of_neg hs]

/-- The brackets that wait are those that are open. -/
theorem bracketDepth?_step (h : Step resolve st t next) :
    bracketDepth? st.openings (t :: rest) = bracketDepth? next.openings rest := by
  cases h with
  | operand hop ha =>
    have hnone := Token.symbol_of_isOperand hop
    exact bracketDepth?_cons (by simp [hnone]) (by simp [hnone])
  | opening hs =>
    rw [bracketDepth?_opening hs, openings, openings, List.count_cons_self]
  | @operation o operands hs hr =>
    have hcount := count_opening_dropWhile (p := (·.reducesBefore (.operation o))) rfl st.operators
    rw [bracketDepth?_cons (by simp [hs]) (by simp [hs]), openings, openings,
      List.count_cons_of_ne (by simp), hcount]
  | @closing waiting operands hs hd hr =>
    have hcount := count_opening_dropWhile (p := (· ≠ .opening)) (by simp) st.operators
    rw [hd, List.count_cons_self] at hcount
    rw [openings, openings, ← hcount, bracketDepth?_closing hs]

theorem bracketDepth?_read (h : read resolve st tokens = .ok next) (rest : List Token) :
    bracketDepth? st.openings (tokens ++ rest) = bracketDepth? next.openings rest := by
  induction tokens generalizing st with
  | nil =>
    cases h
    rfl
  | cons t tokens ih =>
    rw [read_cons] at h
    obtain ⟨mid, ht, h⟩ := bind_eq_ok.1 h
    rw [List.cons_append, bracketDepth?_step (step_eq_ok_iff.1 ht), ih h]

theorem openings_eq_zero_iff : st.openings = 0 ↔ .opening ∉ st.operators :=
  List.count_eq_zero

/-- What is balanced leaves no bracket that waits. -/
theorem isBalanced_iff_of_read (h : read resolve {} tokens = .ok st) :
    isBalanced tokens = true ↔ .opening ∉ st.operators := by
  have hdepth := bracketDepth?_read h []
  rw [List.append_nil] at hdepth
  have hstart : bracketDepth? 0 tokens = some st.openings := hdepth
  rw [isBalanced, hstart, ← openings_eq_zero_iff]
  simp

/-! ## One token -/

/-- Why a token cannot be read. -/
inductive Fault (resolve : List Char → Except Failure α) (st : TwoStacks α) (t : Token) :
    Failure → Prop
  /-- An operand has no value. -/
  | unresolved {e : Failure} : t.isOperand = true → resolve t.text = .error e → Fault resolve st t e
  /-- What is no operand is no symbol either. -/
  | unknown : t.isOperand = false → t.symbol? = none →
      Fault resolve st t (.unknownOperator t.text)
  /-- An operation that waits is to be applied and there are no two trees. -/
  | missing {o : Operation} : .operation o ∈ st.operators →
      Fault resolve st t (.missingOperandOf (.operation o))
  /-- A bracket closes that never opened. -/
  | unopened : t.symbol? = some .closing → .opening ∉ st.operators →
      Fault resolve st t .mismatchedParentheses

theorem fault_of_reduceAll {condition : Symbol → Bool} {operands : List (Expr α)}
    (hoperations : ∀ s ∈ st.operators.takeWhile condition, ∃ o, s = .operation o)
    (h : reduceAll (st.operators.takeWhile condition) operands = .error e) :
    Fault resolve st t e := by
  obtain ⟨o, ho, rfl⟩ := reduceAll_eq_error hoperations h
  exact .missing (List.takeWhile_subset _ ho)

/-- There is no other reason. -/
theorem fault_of_step (hst : .closing ∉ st.operators) (h : step resolve st t = .error e) :
    Fault resolve st t e := by
  cases hop : t.isOperand with
  | true =>
    rw [step_operand hop] at h
    exact .unresolved hop (map_eq_error.1 h)
  | false =>
    cases hs : t.symbol? with
    | none =>
      rw [step_unknown hop hs] at h
      cases h
      exact .unknown hop hs
    | some s =>
      cases s with
      | opening =>
        rw [step_opening hs] at h
        cases h
      | operation o =>
        rw [step_operation hs, pushSymbol_eq] at h
        exact fault_of_reduceAll (operations_of_takeWhile_reducesBefore _ _) (map_eq_error.1 h)
      | closing =>
        rw [step_closing hs, closeBracket_eq] at h
        rcases bind_eq_error.1 h with hr | ⟨operands, -, h⟩
        · exact fault_of_reduceAll (operations_of_takeWhile hst) hr
        · cases hd : st.operators.dropWhile (· ≠ .opening) with
          | cons s waiting =>
            rw [hd] at h
            cases h
          | nil =>
            rw [hd] at h
            cases h
            refine .unopened hs fun hmem => ?_
            simpa using List.dropWhile_eq_nil_iff.1 hd _ hmem

/-- Why there is no tree at the end of the tokens. -/
inductive FinishFault (st : TwoStacks α) : Failure → Prop
  /-- An operation that waits is to be applied and there are no two trees. -/
  | missing {o : Operation} : .operation o ∈ st.operators →
      FinishFault st (.missingOperandOf (.operation o))
  /-- A bracket that opened never closes. -/
  | unclosed : .opening ∈ st.operators → FinishFault st .mismatchedParentheses
  /-- No tree is left. -/
  | nothing : .opening ∉ st.operators → reduceAll st.operators st.operands = .ok [] →
      FinishFault st .noResult
  /-- More than one tree is left. -/
  | excess {trees : List (Expr α)} : .opening ∉ st.operators →
      reduceAll st.operators st.operands = .ok trees → 2 ≤ trees.length →
      FinishFault st .missingOperator

/-- There is no other reason. -/
theorem finishFault_of_finish (hst : .closing ∉ st.operators) (h : st.finish = .error e) :
    FinishFault st e := by
  unfold finish at h
  rw [reduceWhile_eq] at h
  rcases bind_eq_error.1 h with hfail | ⟨reduced, hreduced, h⟩
  · have hoperations := operations_of_takeWhile_not_isBracket st.operators
    obtain ⟨o, ho, rfl⟩ := reduceAll_eq_error hoperations (map_eq_error.1 hfail)
    exact .missing (List.takeWhile_subset _ ho)
  · obtain ⟨trees, hr, rfl⟩ := map_eq_ok.1 hreduced
    cases hd : st.operators.dropWhile (fun s => !s.isBracket) with
    | cons s waiting =>
      rw [hd] at h
      cases h
      have hbracket : s.isBracket = true := by
        have hhead := List.head?_dropWhile_not (fun s : Symbol => !s.isBracket) st.operators
        rw [hd] at hhead
        simpa using hhead
      have hs : s ∈ st.operators := List.dropWhile_subset _ (by rw [hd]; exact List.mem_cons_self)
      cases s with
      | operation o => cases hbracket
      | opening => exact .unclosed hs
      | closing => exact absurd hs hst
    | nil =>
      have hall : ∀ s ∈ st.operators, (!s.isBracket) = true := List.dropWhile_eq_nil_iff.1 hd
      have hnone : .opening ∉ st.operators := fun hmem => absurd (hall _ hmem) (by decide)
      rw [List.takeWhile_eq_self_iff.2 hall] at hr
      rw [hd] at h
      match trees, hr, h with
      | [], hr, h =>
        cases h
        exact .nothing hnone hr
      | [_], _, h => cases h
      | _ :: _ :: _, hr, h =>
        cases h
        exact .excess hnone hr (by simp)

/-! ### Up to the failure -/

/-- Reading fails at one of the tokens. -/
theorem read_eq_error (h : read resolve st tokens = .error e) :
    ∃ before t behind mid, tokens = before ++ t :: behind ∧
      read resolve st before = .ok mid ∧ step resolve mid t = .error e := by
  induction tokens generalizing st with
  | nil => cases h
  | cons t rest ih =>
    rw [read_cons] at h
    rcases bind_eq_error.1 h with ht | ⟨next, ht, h⟩
    · exact ⟨[], t, rest, st, rfl, rfl, ht⟩
    · obtain ⟨before, u, behind, mid, rfl, hread, hu⟩ := ih h
      refine ⟨t :: before, u, behind, mid, rfl, ?_, hu⟩
      rw [read_cons, ht, ok_bind, hread]

/-- An operation that waits was read. -/
theorem mem_operationsOf_of_read {o : Operation} (h : read resolve {} tokens = .ok st)
    (ho : .operation o ∈ st.operators) : o ∈ operationsOf tokens := by
  have hmem : o ∈ st.operations :=
    List.mem_append_left _ (List.mem_filterMap.2 ⟨_, ho, rfl⟩)
  simpa [operations] using (operations_read h).mem_iff.1 hmem

end TwoStacks

/-! ## A list of tokens -/

/-- Why a list of tokens gives no tree. -/
inductive ParseFault (resolve : List Char → Except Failure α) (tokens : List Token) :
    Failure → Prop
  /-- There is no token. -/
  | empty : tokens = [] → ParseFault resolve tokens .emptyExpression
  /-- An operand has no value. -/
  | unresolved {t : Token} {e : Failure} : t ∈ tokens → t.isOperand = true →
      resolve t.text = .error e → ParseFault resolve tokens e
  /-- What is no operand is no symbol either. -/
  | unknown {t : Token} : t ∈ tokens → t.isOperand = false → t.symbol? = none →
      ParseFault resolve tokens (.unknownOperator t.text)
  /-- An operation is applied where there are no two trees. -/
  | missing {o : Operation} : o ∈ operationsOf tokens →
      ParseFault resolve tokens (.missingOperandOf (.operation o))
  /-- A bracket has no partner. -/
  | mismatched : isBalanced tokens = false → ParseFault resolve tokens .mismatchedParentheses
  /-- There is nothing but brackets. -/
  | nothing : isBalanced tokens = true → operandTokens tokens = [] → operationsOf tokens = [] →
      ParseFault resolve tokens .noResult
  /-- There are too few operations to join all operands. -/
  | excess : isBalanced tokens = true →
      (operationsOf tokens).length + 2 ≤ (operandTokens tokens).length →
      ParseFault resolve tokens .missingOperator

section Unbounded

variable {resolve : List Char → Except Failure α} {tokens : List Token} {st : TwoStacks α}
  {e : Failure} {tree : Expr α}

/-- When everything that waits has been applied, all operands and all operations are in the
trees. -/
theorem census_reduceAll {trees : List (Expr α)} (h : TwoStacks.read resolve {} tokens = .ok st)
    (hr : reduceAll st.operators st.operands = .ok trees) :
    (operandTokens tokens).length = (stackLeaves trees).length ∧
      (operationsOf tokens).length = (stackOperations trees).length := by
  constructor
  · have hlength := congrArg List.length (TwoStacks.leaves_read h)
    rw [stackLeaves_reduceAll hr]
    simpa [operandValues] using hlength.symm
  · have hread := TwoStacks.operations_read h
    have hperm := (stackOperations_reduceAll hr).trans hread
    simpa [TwoStacks.operations] using hperm.length_eq.symm

/-- A list that cannot be read to its end. -/
theorem parseFault_of_read (h : TwoStacks.read resolve {} tokens = .error e) :
    ParseFault resolve tokens e := by
  obtain ⟨before, t, behind, mid, rfl, hread, hstep⟩ := TwoStacks.read_eq_error h
  have hmem : t ∈ before ++ t :: behind := List.mem_append_right _ List.mem_cons_self
  have hmid := TwoStacks.no_closing_read (by simp) hread
  cases TwoStacks.fault_of_step hmid hstep with
  | unresolved hop he => exact .unresolved hmem hop he
  | unknown hop hs => exact .unknown hmem hop hs
  | missing ho =>
    refine .missing ?_
    rw [operationsOf_append]
    exact List.mem_append_left _ (TwoStacks.mem_operationsOf_of_read hread ho)
  | unopened hs hnone =>
    refine .mismatched ?_
    have hdepth := TwoStacks.bracketDepth?_read hread (t :: behind)
    rw [TwoStacks.openings_eq_zero_iff.2 hnone, bracketDepth?_unopened hs] at hdepth
    have hstart : bracketDepth? 0 (before ++ t :: behind) = none := hdepth
    rw [isBalanced, hstart]
    rfl

/-- A list that is read to its end and gives no tree all the same. -/
theorem parseFault_of_finish (hread : TwoStacks.read resolve {} tokens = .ok st)
    (h : st.finish = .error e) : ParseFault resolve tokens e := by
  have hbalanced := TwoStacks.isBalanced_iff_of_read hread
  cases TwoStacks.finishFault_of_finish (TwoStacks.no_closing_read (by simp) hread) h with
  | missing ho => exact .missing (TwoStacks.mem_operationsOf_of_read hread ho)
  | unclosed hmem => exact .mismatched (by rwa [← Bool.not_eq_true, hbalanced, not_not])
  | nothing hnone hr =>
    obtain ⟨hoperands, hoperations⟩ := census_reduceAll hread hr
    exact .nothing (hbalanced.2 hnone) (List.eq_nil_of_length_eq_zero hoperands)
      (List.eq_nil_of_length_eq_zero hoperations)
  | @excess trees hnone hr hlength =>
    obtain ⟨hoperands, hoperations⟩ := census_reduceAll hread hr
    have hcount := length_stackLeaves trees
    exact .excess (hbalanced.2 hnone) (by omega)

/-- A list of tokens gives no tree for one of these reasons only. -/
theorem parseFault_of_error (h : parseUnbounded resolve tokens = .error e) :
    ParseFault resolve tokens e := by
  by_cases hnil : tokens = []
  · subst hnil
    cases h
    exact .empty rfl
  · rw [parseUnbounded_eq hnil] at h
    rcases bind_eq_error.1 h with hread | ⟨st, hread, hfinish⟩
    · exact parseFault_of_read hread
    · exact parseFault_of_finish hread hfinish

/-- What gives a tree is balanced, and has one operand more than operations. -/
theorem balanced_of_parseUnbounded (h : parseUnbounded resolve tokens = .ok tree) :
    isBalanced tokens = true ∧
      (operandTokens tokens).length = (operationsOf tokens).length + 1 := by
  rw [parseUnbounded_eq (ne_nil_of_parseUnbounded h)] at h
  obtain ⟨st, hread, hfinish⟩ := bind_eq_ok.1 h
  obtain ⟨hbrackets, hr⟩ := TwoStacks.finish_eq_ok_iff.1 hfinish
  constructor
  · refine (TwoStacks.isBalanced_iff_of_read hread).2 fun hmem => ?_
    exact absurd (hbrackets _ hmem) (by decide)
  · obtain ⟨hoperands, hoperations⟩ := census_reduceAll hread hr
    have hcount := length_stackLeaves [tree]
    rw [hoperands, hoperations]
    exact hcount

end Unbounded

/-! ## Counting -/

/-- A token that can be read: an operand that has a value, or one of the six symbols. -/
def Token.Readable (resolve : List Char → Except Failure α) (t : Token) : Prop :=
  (t.isOperand = true ∧ ∃ a, resolve t.text = .ok a) ∨ ∃ s, t.symbol? = some s

/-- What can become of a list of `m` operands and `k` operations, balanced or not. -/
inductive CountedOutcome (balanced : Bool) (m k : Nat) (x : Except Failure β) : Prop
  | tree {b : β} : x = .ok b → balanced = true → m = k + 1 → CountedOutcome balanced m k x
  | missingFactor : FailsAs x .missingFactor → 1 ≤ k → CountedOutcome balanced m k x
  | mismatched : FailsAs x .mismatchedParentheses → balanced = false →
      CountedOutcome balanced m k x
  | nothing : FailsAs x .malformedExpression → balanced = true → m = 0 → k = 0 →
      CountedOutcome balanced m k x
  | excess : FailsAs x .missingOperator → balanced = true → k + 2 ≤ m →
      CountedOutcome balanced m k x

theorem countedOutcome_parseUnbounded {resolve : List Char → Except Failure α}
    {tokens : List Token} (hne : tokens ≠ []) (hreadable : ∀ t ∈ tokens, t.Readable resolve) :
    CountedOutcome (isBalanced tokens) (operandTokens tokens).length (operationsOf tokens).length
      (parseUnbounded resolve tokens) := by
  cases h : parseUnbounded resolve tokens with
  | ok tree =>
    obtain ⟨hbalanced, hcount⟩ := balanced_of_parseUnbounded h
    exact .tree rfl hbalanced hcount
  | error e =>
    cases parseFault_of_error h with
    | empty hnil => exact absurd hnil hne
    | @unresolved t e ht hop he =>
      rcases hreadable t ht with ⟨-, a, ha⟩ | ⟨s, hs⟩
      · rw [ha] at he
        cases he
      · rw [Token.symbol_of_isOperand hop] at hs
        cases hs
    | @unknown t ht hop hs =>
      rcases hreadable t ht with ⟨hoperand, -⟩ | ⟨s, hs'⟩
      · rw [hop] at hoperand
        cases hoperand
      · rw [hs] at hs'
        cases hs'
    | missing ho => exact .missingFactor ⟨_, rfl, rfl⟩ (List.length_pos_of_mem ho)
    | mismatched hbalanced => exact .mismatched ⟨_, rfl, rfl⟩ hbalanced
    | nothing hbalanced hoperands hoperations =>
      exact .nothing ⟨_, rfl, rfl⟩ hbalanced (by rw [hoperands]; rfl) (by rw [hoperations]; rfl)
    | excess hbalanced hcount => exact .excess ⟨_, rfl, rfl⟩ hbalanced hcount

namespace CountedOutcome

variable {balanced : Bool} {m k : Nat} {x : Except Failure β}

theorem of_unbalanced (h : CountedOutcome false m k x) :
    FailsAs x .mismatchedParentheses ∨ FailsAs x .missingFactor := by
  cases h with
  | mismatched hfails _ => exact .inl hfails
  | missingFactor hfails _ => exact .inr hfails
  | tree _ hbalanced _ | nothing _ hbalanced _ _ | excess _ hbalanced _ => cases hbalanced

theorem not_mismatched (h : CountedOutcome true m k x) : ¬ FailsAs x .mismatchedParentheses := by
  intro hmismatched
  cases h with
  | tree hb _ _ => exact hmismatched.ne_ok _ hb
  | mismatched _ hbalanced => cases hbalanced
  | missingFactor hfails _ | nothing hfails _ _ _ | excess hfails _ _ =>
    exact absurd (hfails.unique hmismatched) (by decide)

theorem malformed_iff (h : CountedOutcome balanced m k x) :
    FailsAs x .malformedExpression ↔ balanced = true ∧ m = 0 ∧ k = 0 := by
  constructor
  · intro hmalformed
    cases h with
    | nothing _ hbalanced hm hk => exact ⟨hbalanced, hm, hk⟩
    | tree hb _ _ => exact absurd hb (hmalformed.ne_ok _)
    | missingFactor hfails _ | mismatched hfails _ | excess hfails _ _ =>
      exact absurd (hfails.unique hmalformed) (by decide)
  · rintro ⟨hbalanced, hm, hk⟩
    cases h with
    | nothing hfails _ _ _ => exact hfails
    | mismatched _ hnot =>
      rw [hbalanced] at hnot
      cases hnot
    | tree | missingFactor | excess => omega

theorem of_le (h : CountedOutcome true m k x) (hk : 1 ≤ k) (hm : m ≤ k) :
    FailsAs x .missingFactor := by
  cases h with
  | missingFactor hfails _ => exact hfails
  | mismatched _ hbalanced => cases hbalanced
  | tree | nothing | excess => omega

theorem of_eq_succ (h : CountedOutcome true m k x) (hm : m = k + 1) :
    (∃ b, x = .ok b) ∨ FailsAs x .missingFactor := by
  cases h with
  | tree hb _ _ => exact .inl ⟨_, hb⟩
  | missingFactor hfails _ => exact .inr hfails
  | mismatched _ hbalanced => cases hbalanced
  | nothing | excess => omega

theorem of_ge (h : CountedOutcome true m k x) (hm : k + 2 ≤ m) :
    FailsAs x .missingOperator ∨ FailsAs x .missingFactor := by
  cases h with
  | excess hfails _ _ => exact .inl hfails
  | missingFactor hfails _ => exact .inr hfails
  | mismatched _ hbalanced => cases hbalanced
  | tree | nothing => omega

end CountedOutcome

/-- **Failures can be told by counting.**  Let a list of tokens, which is not empty, hold nothing
but operands that have a value and symbols.  If its brackets do not match, it fails for this or for
want of a factor.  If they match, it does not fail for this, and with nothing in them, and only
then, the expression is malformed; with operations, but no more operands than these, a factor is
missing; with one operand more there is a tree or a factor is missing; with two or more, an
operation is missing or a factor. -/
theorem failure_by_counting {last? : Option Float} {tokens : List Token} (hne : tokens ≠ [])
    (hreadable : ∀ t ∈ tokens, t.Readable (resolve last?))
    (hlength : tokens.length < largestCapacity - 32) :
    let outcome := parseTokens {} last? tokens
    let m := (operandTokens tokens).length
    let k := (operationsOf tokens).length
    (isBalanced tokens = false →
        FailsAs outcome .mismatchedParentheses ∨ FailsAs outcome .missingFactor) ∧
      (isBalanced tokens = true → ¬ FailsAs outcome .mismatchedParentheses) ∧
      (FailsAs outcome .malformedExpression ↔ isBalanced tokens = true ∧ m = 0 ∧ k = 0) ∧
      (isBalanced tokens = true → 1 ≤ k → m ≤ k → FailsAs outcome .missingFactor) ∧
      (isBalanced tokens = true → m = k + 1 →
        (∃ e, outcome = .ok e) ∨ FailsAs outcome .missingFactor) ∧
      (isBalanced tokens = true → k + 2 ≤ m →
        FailsAs outcome .missingOperator ∨ FailsAs outcome .missingFactor) := by
  intro outcome m k
  have houtcome : CountedOutcome (isBalanced tokens) m k outcome := by
    show CountedOutcome _ _ _ (parse {} (resolve last?) tokens)
    rw [parse_default hlength]
    exact countedOutcome_parseUnbounded hne hreadable
  have hbalanced (h : isBalanced tokens = true) : CountedOutcome true m k outcome := h ▸ houtcome
  refine ⟨fun h => ?_, fun h => (hbalanced h).not_mismatched, houtcome.malformed_iff,
    fun h => (hbalanced h).of_le, fun h => (hbalanced h).of_eq_succ, fun h => (hbalanced h).of_ge⟩
  rw [h] at houtcome
  exact houtcome.of_unbalanced

/-- The theorem at `( 1 + ) 2 ) 3`, whose brackets do not match, and at `( 1 2 ) + 3 4`, where they
do and two operations are missing. -/
theorem failure_by_counting_mixed :
    let opening : Token := ⟨.symbol, ['('], 0⟩
    let closing : Token := ⟨.symbol, [')'], 0⟩
    let plus : Token := ⟨.symbol, ['+'], 0⟩
    let number (digit : Char) : Token := ⟨.number, [digit], 0⟩
    let crossed := [opening, number '1', plus, closing, number '2', closing, number '3']
    let crowded := [opening, number '1', number '2', closing, plus, number '3', number '4']
    (isBalanced crossed = false ∧ (FailsAs (parseTokens {} none crossed) .mismatchedParentheses ∨
      FailsAs (parseTokens {} none crossed) .missingFactor)) ∧
      isBalanced crowded = true ∧ (operandTokens crowded).length = 4 ∧
      (operationsOf crowded).length = 1 ∧ (FailsAs (parseTokens {} none crowded) .missingOperator ∨
        FailsAs (parseTokens {} none crowded) .missingFactor) := by
  intro opening closing plus number crossed crowded
  have hnumber : ∀ digit, isNumber [digit] = true → (number digit).Readable (resolve none) :=
    fun digit h => .inl ⟨rfl, _, resolve_of_isNumber none h⟩
  have hopening : opening.Readable (resolve none) := .inr ⟨.opening, rfl⟩
  have hclosing : closing.Readable (resolve none) := .inr ⟨.closing, rfl⟩
  have hplus : plus.Readable (resolve none) := .inr ⟨.operation .sum, rfl⟩
  have hcrossed : ∀ t ∈ crossed, t.Readable (resolve none) := by
    simp [crossed, hopening, hclosing, hplus, hnumber '1' rfl, hnumber '2' rfl, hnumber '3' rfl]
  have hcrowded : ∀ t ∈ crowded, t.Readable (resolve none) := by
    simp [crowded, hopening, hclosing, hplus, hnumber '1' rfl, hnumber '2' rfl, hnumber '3' rfl,
      hnumber '4' rfl]
  refine ⟨⟨rfl, ?_⟩, rfl, rfl, rfl, ?_⟩
  · exact (failure_by_counting (by simp [crossed]) hcrossed (by decide)).1 rfl
  · exact (failure_by_counting (by simp [crowded]) hcrowded (by decide)).2.2.2.2.2 rfl (by decide)

end DeskCalculator
