import DeskCalculator.Proofs.Evaluation
import DeskCalculator.Proofs.Parser.Census
import DeskCalculator.Proofs.Parser.Juxtaposition

/-!
# A bracketed expression is an operand

What gives a tree may stand in brackets wherever an operand may, even where the tokens around it
are in no good order, and its tree then takes the place of the operand's value.

* `Expr.graft` — a tree put in the place of a leaf; `graftStack` does so in a stack of trees.
* `Unnoticed` — a change of the trees that no reduction of the parser notices; grafting is one.
* `TwoStacks.read_brackets` — a bracketed list adds one tree and touches nothing else.
* `parseUnbounded_brackets` — so brackets can be exchanged for an operand.
* `brackets_as_operand` — the same for the parser with its stacks, and for a session in which the
  operand is the previous result.
-/

namespace DeskCalculator

variable {α β γ : Type}

/-! ## Grafts -/

/-- A tree with another one in the place of a leaf; the leaves are counted from the left. -/
def Expr.graft : Expr α → Nat → Expr α → Expr α
  | .value a, i, t => if i = 0 then t else .value a
  | .node o l r, i, t =>
    if i < l.leaves.length then .node o (l.graft i t) r
    else .node o l (r.graft (i - l.leaves.length) t)

/-- A stack of trees with another one in the place of a leaf; the leaves are counted from that
of the lowest tree which is furthest to the left. -/
def graftStack (i : Nat) (t : Expr α) : List (Expr α) → List (Expr α)
  | [] => []
  | e :: rest =>
    if i < (stackLeaves rest).length then e :: graftStack i t rest
    else e.graft (i - (stackLeaves rest).length) t :: rest

/-- A graft does not change the value if the grafted tree has the value of the leaf. -/
theorem Expr.fold_graft {f : Operation → α → α → α} {e t : Expr α} {i : Nat}
    (h : e.leaves[i]? = some (t.fold f)) : (e.graft i t).fold f = e.fold f := by
  induction e generalizing i with
  | value a =>
    obtain ⟨hi, ha⟩ := List.getElem?_eq_some_iff.1 h
    have hzero : i = 0 := by simpa [Expr.leaves] using hi
    subst hzero
    rw [graft, if_pos rfl, fold]
    exact ha.symm
  | node o l r ihl ihr =>
    rw [leaves] at h
    rw [graft]
    by_cases hi : i < l.leaves.length
    · rw [List.getElem?_append_left hi] at h
      rw [if_pos hi, fold, fold, ihl h]
    · rw [List.getElem?_append_right (Nat.le_of_not_lt hi)] at h
      rw [if_neg hi, fold, fold, ihr h]

theorem length_graftStack (i : Nat) (t : Expr α) (operands : List (Expr α)) :
    (graftStack i t operands).length = operands.length := by
  induction operands with
  | nil => rfl
  | cons e rest ih =>
    rw [graftStack]
    split
    · rw [List.length_cons, List.length_cons, ih]
    · rw [List.length_cons, List.length_cons]

theorem graftStack_singleton (i : Nat) (t e : Expr α) : graftStack i t [e] = [e.graft i t] := by
  rw [graftStack, if_neg (by simp)]
  rfl

/-- The leaf behind all others is that of the operand on top. -/
theorem graftStack_top (t : Expr α) (a : α) (operands : List (Expr α)) :
    graftStack (stackLeaves operands).length t (.value a :: operands) = t :: operands := by
  rw [graftStack, if_neg (Nat.lt_irrefl _), Nat.sub_self, Expr.graft, if_pos rfl]

/-- An operand on top leaves the other leaves in their places. -/
theorem graftStack_below {i : Nat} {operands : List (Expr α)}
    (h : i < (stackLeaves operands).length) (t e : Expr α) :
    graftStack i t (e :: operands) = e :: graftStack i t operands := by
  rw [graftStack, if_pos h]

/-- A stack as long as one with two trees has two trees. -/
theorem exists_top_two {operands : List β} {l r : α} {rest : List α}
    (h : operands.length = (r :: l :: rest).length) :
    ∃ r' l' rest', operands = r' :: l' :: rest' := by
  match operands, h with
  | r' :: l' :: rest', _ => exact ⟨r', l', rest', rfl⟩

/-- Applying a symbol leaves all leaves in their places. -/
theorem reduceTop_graftStack (i : Nat) (t : Expr α) (s : Symbol) (operands : List (Expr α)) :
    reduceTop s (graftStack i t operands) = (reduceTop s operands).map (graftStack i t) := by
  match operands with
  | [] => rfl
  | [e] =>
    rw [graftStack_singleton]
    rfl
  | r :: l :: rest =>
    cases s with
    | opening | closing =>
      obtain ⟨r', l', rest', h⟩ := exists_top_two (length_graftStack i t (r :: l :: rest))
      rw [h]
      rfl
    | operation o =>
      -- the leaf is below both sides of the operation, in the left one or in the right one
      rw [reduceTop_operation, map_ok, graftStack]
      by_cases hl : i < (stackLeaves (l :: rest)).length
      · rw [if_pos hl, graftStack]
        by_cases hrest : i < (stackLeaves rest).length
        · rw [if_pos hrest, reduceTop_operation, graftStack_below hrest]
        · have hleft : i - (stackLeaves rest).length < l.leaves.length := by
            rw [stackLeaves_cons, List.length_append] at hl
            omega
          rw [if_neg hrest, reduceTop_operation, graftStack, if_neg hrest, Expr.graft,
            if_pos hleft]
      · rw [stackLeaves_cons, List.length_append] at hl
        rw [stackLeaves_cons, List.length_append]
        have hrest : ¬ i < (stackLeaves rest).length := by omega
        have hright : ¬ i - (stackLeaves rest).length < l.leaves.length := by omega
        rw [if_neg (by omega), reduceTop_operation, graftStack, if_neg hrest, Expr.graft,
          if_neg hright, Nat.sub_sub]

/-! ## Changes that no reduction notices -/

/-- A change of a stack of trees that can be made before a symbol is applied or after; on a
single tree it is `g`. -/
structure Unnoticed (h : List (Expr α) → List (Expr β)) (g : Expr α → Expr β) : Prop where
  reduceTop : ∀ s operands, reduceTop s (h operands) = (reduceTop s operands).map h
  length : ∀ operands, (h operands).length = operands.length
  single : ∀ e, h [e] = [g e]

theorem unnoticed_graft (i : Nat) (t : Expr α) :
    Unnoticed (graftStack i t) fun e => e.graft i t :=
  ⟨reduceTop_graftStack i t, length_graftStack i t, graftStack_singleton i t⟩

/-- The stacks with other trees. -/
def TwoStacks.change (h : List (Expr α) → List (Expr β)) (st : TwoStacks α) : TwoStacks β :=
  ⟨st.operators, h st.operands⟩

namespace Unnoticed

variable {h : List (Expr α) → List (Expr β)} {g : Expr α → Expr β}

theorem reduceAll (hu : Unnoticed h g) (symbols : List Symbol) (operands : List (Expr α)) :
    reduceAll symbols (h operands) = (reduceAll symbols operands).map h := by
  induction symbols generalizing operands with
  | nil => rfl
  | cons s symbols ih =>
    rw [reduceAll_cons, reduceAll_cons, hu.reduceTop]
    cases DeskCalculator.reduceTop s operands with
    | error failure => rfl
    | ok reduced => exact ih reduced

/-- A token that is no operand does not notice the change. -/
theorem step (hu : Unnoticed h g) {resolve : List Char → Except Failure α}
    {resolve' : List Char → Except Failure β} {u : Token} (hop : u.isOperand = false)
    (st : TwoStacks α) :
    TwoStacks.step resolve' (st.change h) u = (TwoStacks.step resolve st u).map (·.change h) := by
  cases hs : u.symbol? with
  | none =>
    rw [TwoStacks.step_unknown hop hs, TwoStacks.step_unknown hop hs]
    rfl
  | some s =>
    cases s with
    | opening =>
      rw [TwoStacks.step_opening hs, TwoStacks.step_opening hs]
      rfl
    | operation o =>
      rw [TwoStacks.step_operation hs, TwoStacks.step_operation hs, TwoStacks.pushSymbol_eq,
        TwoStacks.pushSymbol_eq]
      simp only [TwoStacks.change, hu.reduceAll]
      cases DeskCalculator.reduceAll
        (st.operators.takeWhile (·.reducesBefore (.operation o))) st.operands with
      | error failure => rfl
      | ok operands => rfl
    | closing =>
      rw [TwoStacks.step_closing hs, TwoStacks.step_closing hs, TwoStacks.closeBracket_eq,
        TwoStacks.closeBracket_eq]
      simp only [TwoStacks.change, hu.reduceAll]
      cases DeskCalculator.reduceAll (st.operators.takeWhile (· ≠ .opening)) st.operands with
      | error failure => rfl
      | ok operands =>
        cases hd : st.operators.dropWhile (· ≠ .opening) with
        | nil => rfl
        | cons s waiting => rfl

/-- The end of the tokens does not notice the change either. -/
theorem finish (hu : Unnoticed h g) (st : TwoStacks α) :
    (st.change h).finish = st.finish.map g := by
  unfold TwoStacks.finish
  rw [TwoStacks.reduceWhile_eq, TwoStacks.reduceWhile_eq]
  simp only [TwoStacks.change, hu.reduceAll]
  cases DeskCalculator.reduceAll
    (st.operators.takeWhile fun s => !s.isBracket) st.operands with
  | error failure => rfl
  | ok operands =>
    simp only [map_ok, ok_bind]
    cases st.operators.dropWhile fun s => !s.isBracket with
    | cons s waiting => rfl
    | nil =>
      have hlength := hu.length operands
      match operands, hlength with
      | [], hlength => rw [List.eq_nil_of_length_eq_zero hlength]; rfl
      | [e], _ => rw [hu.single]; rfl
      | e :: e' :: rest, hlength =>
        obtain ⟨b, b', more, hmore⟩ := exists_top_two hlength
        rw [hmore]
        rfl

end Unnoticed

/-! ## Reading on with a graft -/

section Unbounded

variable {resolve resolve' : List Char → Except Failure α} {st next : TwoStacks α} {u : Token}
  {tokens before inside behind : List Token} {e t : Expr α} {i : Nat}

/-- The trees lose no leaf. -/
theorem length_stackLeaves_step (h : TwoStacks.step resolve st u = .ok next) :
    (stackLeaves st.operands).length ≤ (stackLeaves next.operands).length := by
  have hlength := congrArg List.length (TwoStacks.leaves_step (TwoStacks.step_eq_ok_iff.1 h))
  rw [List.length_append, List.length_map, List.length_map] at hlength
  omega

/-- A token does not notice a graft in what is there already. -/
theorem step_graft (hi : i < (stackLeaves st.operands).length)
    (hagree : u.isOperand = true → resolve u.text = resolve' u.text) :
    TwoStacks.step resolve (st.change (graftStack i t)) u =
      (TwoStacks.step resolve' st u).map (·.change (graftStack i t)) := by
  cases hop : u.isOperand with
  | false => exact (unnoticed_graft i t).step hop st
  | true =>
    rw [TwoStacks.step_operand hop, TwoStacks.step_operand hop, hagree hop]
    cases resolve' u.text with
    | error failure => rfl
    | ok a =>
      simp only [map_ok, TwoStacks.change]
      rw [graftStack_below hi]

/-- Nor does a list of tokens. -/
theorem read_graft (hi : i < (stackLeaves st.operands).length)
    (hagree : ∀ u ∈ tokens, u.isOperand = true → resolve u.text = resolve' u.text) :
    TwoStacks.read resolve (st.change (graftStack i t)) tokens =
      (TwoStacks.read resolve' st tokens).map (·.change (graftStack i t)) := by
  induction tokens generalizing st with
  | nil => rfl
  | cons u rest ih =>
    rw [TwoStacks.read_cons, TwoStacks.read_cons, step_graft hi (hagree u List.mem_cons_self)]
    cases hstep : TwoStacks.step resolve' st u with
    | error failure => rfl
    | ok next =>
      have hnext := Nat.lt_of_lt_of_le hi (length_stackLeaves_step hstep)
      exact ih hnext fun v hv => hagree v (List.mem_cons_of_mem u hv)

/-- What a list of tokens does depends only on the values of its operands. -/
theorem read_congr (hagree : ∀ u ∈ tokens, u.isOperand = true → resolve u.text = resolve' u.text) :
    TwoStacks.read resolve st tokens = TwoStacks.read resolve' st tokens := by
  induction tokens generalizing st with
  | nil => rfl
  | cons u rest ih =>
    have hstep : TwoStacks.step resolve st u = TwoStacks.step resolve' st u := by
      cases hop : u.isOperand with
      | false => rw [TwoStacks.step, TwoStacks.step, if_neg (by simp [hop]), if_neg (by simp [hop])]
      | true =>
        rw [TwoStacks.step_operand hop, TwoStacks.step_operand hop,
          hagree u List.mem_cons_self hop]
    rw [TwoStacks.read_cons, TwoStacks.read_cons, hstep]
    cases TwoStacks.step resolve' st u with
    | error failure => rfl
    | ok next => exact ih fun v hv => hagree v (List.mem_cons_of_mem u hv)

/-! ## Brackets -/

/-- Whatever waits, a bracketed list that gives a tree puts this tree on top and does nothing
else. -/
theorem TwoStacks.read_brackets {opening closing : Token}
    (hinside : parseUnbounded resolve inside = .ok t)
    (hopening : opening.symbol? = some .opening) (hclosing : closing.symbol? = some .closing)
    (st : TwoStacks α) :
    read resolve st (opening :: (inside ++ [closing])) =
      .ok ⟨st.operators, t :: st.operands⟩ := by
  have hbuilds : Builds resolve .sum inside st.operands (t :: st.operands) :=
    (parseUnbounded_eq_ok_iff.1 hinside).append_right st.operands
  have hfactor := Builds.brackets .nothing hopening hbuilds hclosing
  obtain ⟨pending, operands, hread, htier, hreduce⟩ := hfactor.read st.operators calm_factor
  obtain rfl := pending_eq_nil htier
  cases hreduce
  exact hread

/-- **Brackets can be exchanged for an operand.**  A list that gives a tree, in brackets, does
what an operand in its place does, with its tree for the value of the operand; also where the
tokens around it do not give a tree, and where they stand in no good order. -/
theorem parseUnbounded_brackets {opening closing n : Token} {a : α}
    (hinside : parseUnbounded resolve inside = .ok t)
    (hopening : opening.symbol? = some .opening) (hclosing : closing.symbol? = some .closing)
    (hn : n.isOperand = true) (ha : resolve' n.text = .ok a)
    (hagree : ∀ u ∈ before ++ behind, u.isOperand = true → resolve u.text = resolve' u.text) :
    parseUnbounded resolve (before ++ opening :: (inside ++ closing :: behind)) =
      (parseUnbounded resolve' (before ++ n :: behind)).map
        fun e => e.graft (operandTokens before).length t := by
  have hbehind : ∀ u ∈ behind, u.isOperand = true → resolve u.text = resolve' u.text :=
    fun u hu => hagree u (List.mem_append_right before hu)
  have hbrackets : opening :: (inside ++ closing :: behind) =
      opening :: (inside ++ [closing]) ++ behind := by simp
  rw [parseUnbounded_eq (by simp), parseUnbounded_eq (by simp), hbrackets]
  rw [TwoStacks.read_append, TwoStacks.read_append,
    read_congr fun u hu => hagree u (List.mem_append_left behind hu)]
  cases hread : TwoStacks.read resolve' {} before with
  | error failure => rfl
  | ok st =>
    have hleaves := congrArg List.length (TwoStacks.leaves_read hread)
    have hcount : (stackLeaves st.operands).length = (operandTokens before).length := by
      simpa [operandValues] using hleaves
    rw [ok_bind, ok_bind, TwoStacks.read_append,
      TwoStacks.read_brackets hinside hopening hclosing, ok_bind, TwoStacks.read_cons,
      TwoStacks.step_operand hn, ha, map_ok, ok_bind, ← hcount]
    -- the tree on top is the graft of the operand that stands there on the other side
    have hgraft : (⟨st.operators, t :: st.operands⟩ : TwoStacks α) =
        TwoStacks.change (graftStack (stackLeaves st.operands).length t)
          ⟨st.operators, .value a :: st.operands⟩ := by
      rw [TwoStacks.change, graftStack_top]
    have hlt : (stackLeaves st.operands).length <
        (stackLeaves (.value a :: st.operands)).length := by
      rw [stackLeaves_cons, List.length_append]
      exact Nat.lt_succ_self _
    rw [hgraft, read_graft hlt hbehind]
    cases TwoStacks.read resolve' ⟨st.operators, .value a :: st.operands⟩ behind with
    | error failure => rfl
    | ok next => exact (unnoticed_graft _ t).finish next

/-- The leaf of an operand stands behind those of the operands before it. -/
theorem leaves_getElem_of_parseUnbounded {n : Token} {a : α}
    (h : parseUnbounded resolve (before ++ n :: behind) = .ok e) (hn : n.isOperand = true)
    (ha : resolve n.text = .ok a) : e.leaves[(operandTokens before).length]? = some a := by
  have hleaves := leaves_parseUnbounded h
  have hat : (e.leaves.map Except.ok)[(operandTokens before).length]? =
      some (Except.ok a : Except Failure α) := by
    rw [hleaves]
    simp [operandValues, operandTokens, hn, ha]
  simpa using hat

end Unbounded

/-! ## The parser and a session -/

section Calculator

variable {last? : Option Float} {before inside behind : List Token} {opening closing n : Token}
  {t : Expr Float}

/-- An operand takes no more room than brackets. -/
theorem length_operand_lt {bound : Nat}
    (h : (before ++ opening :: (inside ++ closing :: behind)).length < bound) :
    (before ++ n :: behind).length < bound := by
  simp only [List.length_append, List.length_cons] at h ⊢
  omega

/-- The brackets and an operand, with the value it has after another previous result. -/
theorem parseTokens_brackets {last?' : Option Float} {a : Float}
    (hinside : parseTokens {} last? inside = .ok t)
    (hopening : opening.symbol? = some .opening) (hclosing : closing.symbol? = some .closing)
    (hlength : (before ++ opening :: (inside ++ closing :: behind)).length < largestCapacity - 32)
    (hn : n.isOperand = true) (ha : resolve last?' n.text = .ok a)
    (hagree : ∀ u ∈ before ++ behind, u.isOperand = true →
      resolve last? u.text = resolve last?' u.text) :
    parseTokens {} last? (before ++ opening :: (inside ++ closing :: behind)) =
        (parseTokens {} last?' (before ++ n :: behind)).map
          (fun e => e.graft (operandTokens before).length t) ∧
      ∀ e, parseTokens {} last?' (before ++ n :: behind) = .ok e →
        e.leaves[(operandTokens before).length]? = some a := by
  have hunbounded := parseUnbounded_of_parse hinside
  rw [parseTokens, parse_default hlength, parseTokens, parse_default (length_operand_lt hlength)]
  refine ⟨parseUnbounded_brackets hunbounded hopening hclosing hn ha hagree, fun e he => ?_⟩
  exact leaves_getElem_of_parseUnbounded he hn ha

/-- What stands in brackets is worth what it is worth alone. -/
theorem evaluateTokens_brackets {last?' : Option Float}
    (hinside : parseTokens {} last? inside = .ok t)
    (hopening : opening.symbol? = some .opening) (hclosing : closing.symbol? = some .closing)
    (hlength : (before ++ opening :: (inside ++ closing :: behind)).length < largestCapacity - 32)
    (hn : n.isOperand = true) (ha : resolve last?' n.text = .ok (t.fold Operation.apply))
    (hagree : ∀ u ∈ before ++ behind, u.isOperand = true →
      resolve last? u.text = resolve last?' u.text) :
    evaluateTokens {} last? (before ++ opening :: (inside ++ closing :: behind)) =
      evaluateTokens {} last?' (before ++ n :: behind) := by
  obtain ⟨hparse, hleaf⟩ :=
    parseTokens_brackets hinside hopening hclosing hlength hn ha hagree
  rw [evaluateTokens_eq, evaluateTokens_eq, hparse]
  cases he : parseTokens {} last?' (before ++ n :: behind) with
  | error failure => rfl
  | ok e =>
    rw [map_ok, map_ok, map_ok, Expr.fold_graft (hleaf e he)]

end Calculator

/-- **Brackets and the previous result are compositional.**  Let a list give a tree.  In brackets
it may stand for a number among any tokens: either both lists give a tree, and then the one with
brackets has this tree where the other has the value of the number, or both fail alike.  So a
session that first calculates the list alone and then takes the previous result for it answers
what it would have answered with the brackets, if no other operand is the previous result. -/
theorem brackets_as_operand {last? : Option Float} {before inside behind : List Token}
    {opening closing : Token} {t : Expr Float}
    (hinside : parseTokens {} last? inside = .ok t)
    (hopening : opening.symbol? = some .opening) (hclosing : closing.symbol? = some .closing)
    (hlength :
      (before ++ opening :: (inside ++ closing :: behind)).length < largestCapacity - 32) :
    (∀ n : Token, n.kind = .number → isNumber n.text = true →
      parseTokens {} last? (before ++ opening :: (inside ++ closing :: behind)) =
          (parseTokens {} last? (before ++ n :: behind)).map
            (fun e => e.graft (operandTokens before).length t) ∧
        ∀ e, parseTokens {} last? (before ++ n :: behind) = .ok e →
          e.leaves[(operandTokens before).length]? = some (literalValue n.text)) ∧
      ∀ (σ : Type) (sink : Sink σ) (s : Session σ) (ans : Token), s.last? = last? →
        ans.isAnswer = true →
        (∀ u ∈ before ++ behind, u.isOperand = true → isAnswerWord u.text = false) →
        ((s.calculateTokens {} sink inside).session.calculateTokens {} sink
            (before ++ ans :: behind)).outcome.map Evaluation.value =
          (s.calculateTokens {} sink
            (before ++ opening :: (inside ++ closing :: behind))).outcome.map Evaluation.value := by
  refine ⟨fun n hkind htext => ?_, fun σ sink s ans hlast hans hnone => ?_⟩
  · have hn : n.isOperand = true := by simp [Token.isOperand, hkind]
    exact parseTokens_brackets hinside hopening hclosing hlength hn
      (resolve_of_isNumber last? htext) fun _ _ _ => rfl
  · have hvalue : evaluateTokens {} s.last? inside = .ok (t.fold Operation.apply) := by
      rw [hlast, evaluateTokens_eq, hinside, map_ok]
    have hop : ans.isOperand = true := by simp [Token.isOperand, hans]
    have hword : isAnswerWord ans.text = true := by
      rw [Token.isAnswer, Bool.and_eq_true] at hans
      exact hans.2
    rw [Session.calculateTokens_outcome, Session.calculateTokens_outcome,
      Session.calculateTokens_last hvalue, hlast]
    refine (evaluateTokens_brackets hinside hopening hclosing hlength hop
      (resolve_of_isAnswerWord hword) fun u hu hoperand => ?_).symm
    exact resolve_of_not_isAnswerWord (hnone u hu hoperand) _ _

/-- The theorem at `2 * ( 1 3 + ) - 4`, where what is in the brackets is in no good order, beside
`2 * 7 - 4`, and beside `1 3 +` followed by `2 * ans - 4`. -/
theorem brackets_as_operand_postfix :
    let before : List Token := [⟨.number, ['2'], 0⟩, ⟨.symbol, ['*'], 2⟩]
    let inside : List Token := [⟨.number, ['1'], 6⟩, ⟨.number, ['3'], 8⟩, ⟨.symbol, ['+'], 10⟩]
    let behind : List Token := [⟨.symbol, ['-'], 14⟩, ⟨.number, ['4'], 16⟩]
    let opening : Token := ⟨.symbol, ['('], 4⟩
    let closing : Token := ⟨.symbol, [')'], 12⟩
    let seven : Token := ⟨.number, ['7'], 4⟩
    let ans : Token := ⟨.identifier, ['a', 'n', 's'], 4⟩
    let t : Expr Float := .node .sum (.value (literalValue ['1'])) (.value (literalValue ['3']))
    let s : Session Unit := ⟨none, ()⟩
    parseTokens {} none inside = .ok t ∧
      parseTokens {} none (before ++ opening :: (inside ++ closing :: behind)) =
        (parseTokens {} none (before ++ seven :: behind)).map (fun e => e.graft 1 t) ∧
      ((s.calculateTokens {} Sink.silent inside).session.calculateTokens {} Sink.silent
          (before ++ ans :: behind)).outcome.map Evaluation.value =
        (s.calculateTokens {} Sink.silent
          (before ++ opening :: (inside ++ closing :: behind))).outcome.map Evaluation.value := by
  intro before inside behind opening closing seven ans t s
  have hinside : parseTokens {} none inside = .ok t := rfl
  have h := @brackets_as_operand none before inside behind opening closing t hinside rfl rfl
    (by decide)
  have hnone : ∀ u ∈ before ++ behind, u.isOperand = true → isAnswerWord u.text = false := by
    decide
  exact ⟨hinside, (h.1 seven rfl rfl).1, h.2 Unit Sink.silent s ans rfl rfl hnone⟩

end DeskCalculator
