import DeskCalculator.Proofs.Parser.WellFormed
import DeskCalculator.Proofs.Parser.Failures

/-!
# Lists that only brackets can spoil

Where each token fits the one before it, operands and operations take turns.  Then whatever is to be
applied has both its sides, wherever the brackets are, and all that can go wrong is that a bracket
has no partner.

* `BracketsMatch` — that brackets have their partners, said by counting; `isBalanced_iff`.
* `NeighboursFit` — each token fits the one before it; `Alternates` says it from left to right.
* `TwoStacks.Poised` — what the stacks have in common at every place of such a list: one tree more
  than operations behind a factor, and as many where a factor is due.
* `TwoStacks.Poised.read` — the stacks stay like this until a bracket closes that never opened.
* `only_brackets_fail` — what this says of the result.
-/

namespace DeskCalculator

/-! ## Brackets, counted -/

/-- How often a symbol stands in a list of tokens. -/
def symbolCount (s : Symbol) (tokens : List Token) : Nat :=
  tokens.countP fun t => t.symbol? == some s

/-- The brackets of a list have their partners: up to no place more of them close than open, and
in all as many. -/
structure BracketsMatch (tokens : List Token) : Prop where
  opened : ∀ before, before <+: tokens →
    symbolCount .closing before ≤ symbolCount .opening before
  closed : symbolCount .closing tokens = symbolCount .opening tokens

section Counting

variable {t : Token} {tokens rest : List Token} {depth d : Nat}

theorem symbolCount_cons (s : Symbol) :
    symbolCount s (t :: rest) = symbolCount s rest + if t.symbol? = some s then 1 else 0 := by
  simp [symbolCount, List.countP_cons]

/-- What holds of all beginnings of a list holds of the empty one and of those with its head. -/
theorem forall_prefix_cons {P : List Token → Prop} :
    (∀ before, before <+: t :: rest → P before) ↔
      P [] ∧ ∀ before, before <+: rest → P (t :: before) := by
  constructor
  · intro h
    refine ⟨h [] List.nil_prefix, fun before hprefix => ?_⟩
    exact h _ (List.cons_prefix_cons.2 ⟨rfl, hprefix⟩)
  · rintro ⟨hnil, hcons⟩ before hprefix
    rcases List.prefix_cons_iff.1 hprefix with rfl | ⟨before', rfl, hprefix'⟩
    · exact hnil
    · exact hcons before' hprefix'

/-- The depth of the brackets is how many more open than close, if it never falls below zero. -/
theorem bracketDepth?_eq_some_iff :
    bracketDepth? depth tokens = some d ↔
      (∀ before, before <+: tokens →
        symbolCount .closing before ≤ depth + symbolCount .opening before) ∧
      depth + symbolCount .opening tokens = d + symbolCount .closing tokens := by
  induction tokens generalizing depth with
  | nil => simp [bracketDepth?, symbolCount]
  | cons t rest ih =>
    rw [forall_prefix_cons]
    simp only [symbolCount_cons]
    by_cases hopening : t.symbol? = some .opening
    · rw [bracketDepth?_opening hopening, ih]
      simp [hopening, symbolCount, Nat.add_assoc, Nat.add_comm 1]
    · by_cases hclosing : t.symbol? = some .closing
      · cases depth with
        | zero =>
          rw [bracketDepth?_unopened hclosing]
          simp only [reduceCtorEq, false_iff, hclosing]
          rintro ⟨⟨-, hall⟩, -⟩
          simpa [symbolCount] using hall [] List.nil_prefix
        | succ depth =>
          rw [bracketDepth?_closing hclosing, ih]
          simp [hclosing, symbolCount, Nat.add_right_comm depth 1, ← Nat.add_assoc]
      · rw [bracketDepth?_cons hopening hclosing, ih]
        simp [hopening, hclosing, symbolCount]

/-- Brackets have their partners exactly if they are balanced. -/
theorem isBalanced_iff : isBalanced tokens = true ↔ BracketsMatch tokens := by
  rw [isBalanced, beq_iff_eq, bracketDepth?_eq_some_iff]
  simp only [Nat.zero_add]
  exact ⟨fun h => ⟨h.1, h.2.symm⟩, fun h => ⟨h.opened, h.closed.symm⟩⟩

instance : Decidable (BracketsMatch tokens) := decidable_of_iff _ isBalanced_iff

end Counting

/-! ## Tokens that fit each other -/

/-- Each token fits the one before it.  The list begins as a factor does; behind an operation and
an opening bracket a factor begins; and behind an operand and a closing bracket, unless the list
ends, there is an operation or a closing bracket. -/
structure NeighboursFit (tokens : List Token) : Prop where
  first : ∃ t ∈ tokens.head?, t.StartsFactor
  last : ∀ t ∈ tokens.getLast?, ¬ t.NeedsAfter
  between : tokens.IsChain fun t u =>
    (t.NeedsAfter → u.StartsFactor) ∧ (t.EndsFactor → u.NeedsBefore)

/-- The tokens take turns: a factor is due, or one has just ended. -/
inductive Alternates : Bool → List Token → Prop
  /-- An operand is a factor. -/
  | operand {t : Token} {rest : List Token} : t.isOperand = true → Alternates true rest →
      Alternates false (t :: rest)
  /-- Behind an opening bracket a factor is due. -/
  | opening {t : Token} {rest : List Token} : t.symbol? = some .opening →
      Alternates false rest → Alternates false (t :: rest)
  /-- Behind an operation a factor is due. -/
  | operation {t : Token} {o : Operation} {rest : List Token} :
      t.symbol? = some (.operation o) → Alternates false rest → Alternates true (t :: rest)
  /-- A closing bracket ends a factor. -/
  | closing {t : Token} {rest : List Token} : t.symbol? = some .closing →
      Alternates true rest → Alternates true (t :: rest)
  /-- The end comes behind a factor. -/
  | done : Alternates true []

section Fitting

variable {t : Token} {tokens : List Token}

instance : Decidable t.StartsFactor := inferInstanceAs (Decidable (_ ∨ _))

instance : Decidable t.EndsFactor := inferInstanceAs (Decidable (_ ∨ _))

instance : Decidable t.NeedsBefore :=
  decidable_of_iff (t.symbol?.any (· ≠ .opening) = true)
    (by simp [Token.NeedsBefore, Option.any_eq_true])

instance : Decidable t.NeedsAfter :=
  decidable_of_iff (t.symbol?.any (· ≠ .closing) = true)
    (by simp [Token.NeedsAfter, Option.any_eq_true])

instance : Decidable (NeighboursFit tokens) :=
  decidable_of_iff ((∃ t ∈ tokens.head?, t.StartsFactor) ∧
      (∀ t ∈ tokens.getLast?, ¬ t.NeedsAfter) ∧
      tokens.IsChain fun t u => (t.NeedsAfter → u.StartsFactor) ∧ (t.EndsFactor → u.NeedsBefore))
    ⟨fun h => ⟨h.1, h.2.1, h.2.2⟩, fun h => ⟨h.first, h.last, h.between⟩⟩

theorem Token.needsAfter_of_opening (h : t.symbol? = some .opening) : t.NeedsAfter :=
  ⟨_, h, by simp⟩

theorem Token.needsAfter_of_operation {o : Operation} (h : t.symbol? = some (.operation o)) :
    t.NeedsAfter :=
  ⟨_, h, by simp⟩

/-- A chain of tokens that fit each other takes turns from its first token on. -/
theorem alternates_of_isChain (hlast : ∀ u ∈ (t :: tokens).getLast?, ¬ u.NeedsAfter)
    (hchain : (t :: tokens).IsChain fun t u =>
      (t.NeedsAfter → u.StartsFactor) ∧ (t.EndsFactor → u.NeedsBefore)) :
    (t.StartsFactor → Alternates false (t :: tokens)) ∧
      (t.NeedsBefore → Alternates true (t :: tokens)) := by
  induction tokens generalizing t with
  | nil =>
    have hend : ¬ t.NeedsAfter := hlast t rfl
    constructor
    · rintro (hop | hopening)
      · exact .operand hop .done
      · exact absurd (Token.needsAfter_of_opening hopening) hend
    · rintro ⟨s, hs, hne⟩
      cases s with
      | operation o => exact absurd (Token.needsAfter_of_operation hs) hend
      | opening => exact absurd rfl hne
      | closing => exact .closing hs .done
  | cons u tokens ih =>
    obtain ⟨hnext, hrest⟩ := List.isChain_cons_cons.1 hchain
    obtain ⟨hdue, hended⟩ := ih (by simpa using hlast) hrest
    constructor
    · rintro (hop | hopening)
      · exact .operand hop (hended (hnext.2 (.inl hop)))
      · exact .opening hopening (hdue (hnext.1 (Token.needsAfter_of_opening hopening)))
    · rintro ⟨s, hs, hne⟩
      cases s with
      | operation o => exact .operation hs (hdue (hnext.1 (Token.needsAfter_of_operation hs)))
      | opening => exact absurd rfl hne
      | closing => exact .closing hs (hended (hnext.2 (.inr hs)))

theorem NeighboursFit.alternates (h : NeighboursFit tokens) : Alternates false tokens := by
  obtain ⟨t, ht, hstarts⟩ := h.first
  cases tokens with
  | nil => cases ht
  | cons u tokens =>
    cases ht
    exact (alternates_of_isChain h.last h.between).1 hstarts

/-- No factor follows a factor where tokens fit each other. -/
theorem NeighboursFit.factorsApart (h : NeighboursFit tokens) : FactorsApart tokens :=
  h.between.imp fun _ _ hfits hboth => hboth.2.not_needsBefore (hfits.2 hboth.1)

end Fitting

/-! ## The stacks on the way -/

section Poised

variable {α : Type} {resolve : List Char → Except Failure α} {ended : Bool}
  {tokens : List Token}

/-- Operations can be applied as long as there is a tree more than there are of them. -/
theorem exists_reduceAll_of_length_lt {symbols : List Symbol} {operands : List (Expr α)}
    (hsymbols : ∀ s ∈ symbols, ∃ o, s = .operation o)
    (hlength : symbols.length < operands.length) :
    ∃ result, reduceAll symbols operands = .ok result := by
  induction symbols generalizing operands with
  | nil => exact ⟨operands, rfl⟩
  | cons s symbols ih =>
    obtain ⟨⟨o, rfl⟩, hrest⟩ := List.forall_mem_cons.1 hsymbols
    match operands, hlength with
    | [], hlength | [_], hlength =>
      simp at hlength
    | r :: l :: rest, hlength =>
      rw [reduceAll_cons, reduceTop_operation, ok_bind]
      exact ih hrest (by simpa using hlength)

namespace TwoStacks

variable {st next : TwoStacks α}

/-- How many operations wait. -/
def waiting (operators : List Symbol) : Nat := operators.countP fun s => !s.isBracket

/-- The stacks in a list that takes turns: no closing bracket waits, and there are as many trees as
operations that wait, and one more if a factor has just ended. -/
structure Poised (ended : Bool) (st : TwoStacks α) : Prop where
  no_closing : .closing ∉ st.operators
  balance : st.operands.length = waiting st.operators + ended.toNat

/-- Operations that are applied do not wait any longer. -/
theorem waiting_dropWhile {p : Symbol → Bool} {operators : List Symbol}
    (h : ∀ s ∈ operators.takeWhile p, ∃ o, s = .operation o) :
    (operators.takeWhile p).length + waiting (operators.dropWhile p) = waiting operators := by
  have htaken : (operators.takeWhile p).countP (fun s => !s.isBracket) =
      (operators.takeWhile p).length := by
    refine List.countP_eq_length.2 fun s hs => ?_
    obtain ⟨o, rfl⟩ := h s hs
    rfl
  have hsplit := congrArg waiting (List.takeWhile_append_dropWhile (p := p) (l := operators))
  rw [waiting, List.countP_append, htaken] at hsplit
  exact hsplit

/-- Behind a factor, whatever operations are to be applied have both their sides, and behind them
there is again one tree more than operations that wait. -/
theorem Poised.exists_reduceAll (h : st.Poised true) {p : Symbol → Bool}
    (hp : ∀ s ∈ st.operators.takeWhile p, ∃ o, s = .operation o) :
    ∃ operands, reduceAll (st.operators.takeWhile p) st.operands = .ok operands ∧
      operands.length = waiting (st.operators.dropWhile p) + 1 := by
  have hbalance : st.operands.length = waiting st.operators + 1 := h.balance
  have hwaiting := waiting_dropWhile hp
  have henough : (st.operators.takeWhile p).length < st.operands.length := by omega
  obtain ⟨operands, hr⟩ := exists_reduceAll_of_length_lt hp henough
  have hlength := length_reduceAll hr
  exact ⟨operands, hr, by omega⟩

/-! ### One token -/

theorem Poised.operand {t : Token} {a : α} (h : st.Poised false) (hop : t.isOperand = true)
    (ha : resolve t.text = .ok a) : ∃ next, step resolve st t = .ok next ∧ next.Poised true := by
  refine ⟨_, step_eq_ok_iff.2 (.operand hop ha), h.no_closing, ?_⟩
  simpa using h.balance

theorem Poised.opening (resolve : List Char → Except Failure α) {t : Token} (h : st.Poised false)
    (hs : t.symbol? = some .opening) :
    ∃ next, step resolve st t = .ok next ∧ next.Poised false := by
  refine ⟨_, step_eq_ok_iff.2 (.opening hs), by simpa using h.no_closing, ?_⟩
  simpa [waiting, Symbol.isBracket] using h.balance

theorem Poised.operation (resolve : List Char → Except Failure α) {t : Token} {o : Operation}
    (h : st.Poised true) (hs : t.symbol? = some (.operation o)) :
    ∃ next, step resolve st t = .ok next ∧ next.Poised false := by
  have hoperations := operations_of_takeWhile_reducesBefore st.operators (.operation o)
  obtain ⟨operands, hr, hlength⟩ := h.exists_reduceAll hoperations
  have hstep : Step resolve st t _ := .operation hs hr
  refine ⟨_, step_eq_ok_iff.2 hstep, no_closing_step h.no_closing hstep, ?_⟩
  simpa [waiting, Symbol.isBracket] using hlength

/-- A closing bracket leaves the stacks poised, or it never opened. -/
theorem Poised.closing (resolve : List Char → Except Failure α) {t : Token} (h : st.Poised true)
    (hs : t.symbol? = some .closing) :
    step resolve st t = .error .mismatchedParentheses ∨
      ∃ next, step resolve st t = .ok next ∧ next.Poised true := by
  obtain ⟨operands, hr, hlength⟩ := h.exists_reduceAll (operations_of_takeWhile h.no_closing)
  cases hd : st.operators.dropWhile (· ≠ .opening) with
  | nil =>
    refine .inl ?_
    rw [step_closing hs, closeBracket_eq, hr, ok_bind, hd]
  | cons s rest =>
    obtain rfl := dropWhile_ne_opening hd
    have hstep : Step resolve st t _ := .closing hs hd hr
    refine .inr ⟨_, step_eq_ok_iff.2 hstep, no_closing_step h.no_closing hstep, ?_⟩
    rw [hd] at hlength
    simpa [waiting, Symbol.isBracket] using hlength

/-! ### All tokens -/

/-- Tokens that take turns are read with the stacks poised all the way, or a bracket among them
closes and never opened. -/
theorem Poised.read (h : Alternates ended tokens) (hst : st.Poised ended)
    (hresolve : ∀ t ∈ tokens, t.isOperand = true → ∃ a, resolve t.text = .ok a) :
    read resolve st tokens = .error .mismatchedParentheses ∨
      ∃ next, read resolve st tokens = .ok next ∧ next.Poised true := by
  induction h generalizing st with
  | done => exact .inr ⟨st, rfl, hst⟩
  | @operand t rest hop _ ih =>
    obtain ⟨hhead, hrest⟩ := List.forall_mem_cons.1 hresolve
    obtain ⟨a, ha⟩ := hhead hop
    obtain ⟨next, hstep, hnext⟩ := hst.operand hop ha
    rw [read_cons, hstep]
    exact ih hnext hrest
  | @opening t rest hs _ ih =>
    obtain ⟨next, hstep, hnext⟩ := hst.opening resolve hs
    rw [read_cons, hstep]
    exact ih hnext (List.forall_mem_cons.1 hresolve).2
  | @operation t o rest hs _ ih =>
    obtain ⟨next, hstep, hnext⟩ := hst.operation resolve hs
    rw [read_cons, hstep]
    exact ih hnext (List.forall_mem_cons.1 hresolve).2
  | @closing t rest hs _ ih =>
    rw [read_cons]
    rcases hst.closing resolve hs with hfails | ⟨next, hstep, hnext⟩
    · rw [hfails]
      exact .inl rfl
    · rw [hstep]
      exact ih hnext (List.forall_mem_cons.1 hresolve).2

/-- Behind a factor the end of the tokens leaves one tree, unless a bracket is still open. -/
theorem Poised.finish (h : st.Poised true) :
    st.finish = .error .mismatchedParentheses ∨ ∃ e, st.finish = .ok e := by
  have hoperations := operations_of_takeWhile_not_isBracket st.operators
  obtain ⟨operands, hr, hlength⟩ := h.exists_reduceAll hoperations
  unfold TwoStacks.finish
  rw [reduceWhile_eq, hr, map_ok, ok_bind]
  cases hd : st.operators.dropWhile (fun s => !s.isBracket) with
  | cons s rest => exact .inl rfl
  | nil =>
    rw [hd] at hlength
    match operands, hlength with
    | [e], _ => exact .inr ⟨e, rfl⟩

end TwoStacks

/-- Tokens that fit each other give a tree, or their brackets do not match. -/
theorem NeighboursFit.parseUnbounded (h : NeighboursFit tokens)
    (hresolve : ∀ t ∈ tokens, t.isOperand = true → ∃ a, resolve t.text = .ok a) :
    parseUnbounded resolve tokens = .error .mismatchedParentheses ∨
      ∃ e, parseUnbounded resolve tokens = .ok e := by
  have hne : tokens ≠ [] := by
    rintro rfl
    obtain ⟨t, ht, -⟩ := h.first
    cases ht
  have hstart : ({} : TwoStacks α).Poised false := ⟨by simp, rfl⟩
  rw [parseUnbounded_eq hne]
  rcases hstart.read h.alternates hresolve with hfails | ⟨st, hread, hst⟩
  · rw [hfails]
    exact .inl rfl
  · rw [hread, ok_bind]
    exact hst.finish

end Poised

/-! ## Only brackets fail -/

/-- **Where neighbours fit, only brackets fail.**  Let each token of a list fit the one before it,
and let its operands have values.  Then the list gives a tree if and only if its brackets match, and
this is the tree that it writes; otherwise it fails for its brackets and for nothing else. -/
theorem only_brackets_fail {last? : Option Float} {tokens : List Token} (h : NeighboursFit tokens)
    (hresolve : ∀ t ∈ tokens, t.isOperand = true → ∃ a, resolve last? t.text = .ok a)
    (hlength : tokens.length < largestCapacity - 32) :
    let outcome := parseTokens {} last? tokens
    ((∃ e, outcome = .ok e) ↔ BracketsMatch tokens) ∧
      (¬ BracketsMatch tokens → outcome = .error .mismatchedParentheses) ∧
      ∀ e, outcome = .ok e → Writes (resolve last?) .sum tokens e := by
  intro outcome
  have houtcome : outcome = parseUnbounded (resolve last?) tokens := parse_default hlength
  rw [houtcome]
  rcases h.parseUnbounded hresolve with hfails | ⟨e, he⟩
  · have hunbalanced : ¬ BracketsMatch tokens := by
      rw [← isBalanced_iff, Bool.not_eq_true]
      cases parseFault_of_error hfails with
      | mismatched hbalanced => exact hbalanced
      | @unresolved t _ ht hop hnone =>
        obtain ⟨a, ha⟩ := hresolve t ht hop
        rw [ha] at hnone
        cases hnone
    rw [hfails]
    exact ⟨iff_of_false (by simp) hunbalanced, fun _ => rfl, fun e he => by cases he⟩
  · have hbalanced := isBalanced_iff.1 (balanced_of_parseUnbounded he).1
    refine ⟨iff_of_true ⟨e, he⟩ hbalanced, fun hnot => absurd hbalanced hnot, fun e' he' => ?_⟩
    rcases (parseUnbounded_eq_ok_iff.1 he').writes_or with hwrites | ⟨hnot, -⟩
    · exact hwrites
    · exact absurd h.factorsApart hnot

/-- The theorem at `2 - ( 3 + ans ) ) * ( 4`, where one bracket closes too many and another one is
left open, and at `2 - ( 3 + ans )`. -/
theorem only_brackets_fail_crossed :
    let symbol (c : Char) : Token := ⟨.symbol, [c], 0⟩
    let number (digit : Char) : Token := ⟨.number, [digit], 0⟩
    let answer : Token := ⟨.identifier, ['a', 'n', 's'], 0⟩
    let matched := [number '2', symbol '-', symbol '(', number '3', symbol '+', answer, symbol ')']
    let crossed := matched ++ [symbol ')', symbol '*', symbol '(', number '4']
    (NeighboursFit crossed ∧ ¬ BracketsMatch crossed ∧
      parseTokens {} (some 5.0) crossed = .error .mismatchedParentheses) ∧
      NeighboursFit matched ∧ BracketsMatch matched ∧
        ∃ e, parseTokens {} (some 5.0) matched = .ok e := by
  intro symbol number answer matched crossed
  have hvalued : ∀ t ∈ crossed, t.isOperand = true → ∃ a, resolve (some 5.0) t.text = .ok a := by
    have hterms : ∀ t ∈ crossed, t.isOperand = true →
        isAnswerWord t.text = true ∨ isNumber t.text = true := by decide
    intro t ht hop
    rcases hterms t ht hop with hanswer | hnumber
    · exact ⟨_, resolve_of_isAnswerWord hanswer⟩
    · exact ⟨_, resolve_of_isNumber _ hnumber⟩
  have hcrossed : NeighboursFit crossed := by decide
  have hmatched : NeighboursFit matched := by decide
  have hunmatched : ¬ BracketsMatch crossed := by decide
  have hbalanced : BracketsMatch matched := by decide
  refine ⟨⟨hcrossed, hunmatched, ?_⟩, hmatched, hbalanced, ?_⟩
  · exact (only_brackets_fail hcrossed hvalued (by decide)).2.1 hunmatched
  · have hvalued' := fun t ht => hvalued t (List.mem_append_left _ ht)
    exact (only_brackets_fail hmatched hvalued' (by decide)).1.2 hbalanced

end DeskCalculator
