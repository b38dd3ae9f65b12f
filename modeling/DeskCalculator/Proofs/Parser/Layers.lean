import DeskCalculator.Proofs.Parser.Room

/-!
# What can wait at a time

An operation that comes in applies what binds at least as tightly and waits above what is left, so
operations bind the tighter the higher they wait.  There are two tiers, and an opening bracket keeps
apart what is above it and below it: between two brackets at most two operations wait, and how many
symbols wait in all is a matter of the brackets alone.

* `IsLayer` — what waits between two brackets.
* `Layered` — layers with an opening bracket between neighbours.
* `TwoStacks.Step.layered`, `TwoStacks.layered_of_read` — every token keeps what waits layered, and
  so does a list of tokens.
* `waiting_symbols_layered` — the same of the parser with limits, at every point between tokens.
-/

namespace DeskCalculator

/-! ## Layers -/

/-- What waits between two brackets, the latest first: at most two operations, and of two the upper
one binds more tightly. -/
inductive IsLayer : List Symbol → Prop
  | nothing : IsLayer []
  | single (o : Operation) : IsLayer [.operation o]
  | pair {upper lower : Operation} : upper.isMultiplicative = true → lower.isAdditive = true →
      IsLayer [.operation upper, .operation lower]

/-- Symbols that wait, the latest first: layers with an opening bracket between neighbours. -/
inductive Layered : List Symbol → Prop
  | lowest {layer : List Symbol} : IsLayer layer → Layered layer
  | above {layer below : List Symbol} : IsLayer layer → Layered below →
      Layered (layer ++ .opening :: below)

section Layers

variable {layer waiting : List Symbol} {o : Operation}

theorem IsLayer.length_le (h : IsLayer layer) : layer.length ≤ 2 := by
  cases h <;> simp

/-- A layer has no brackets in it. -/
theorem IsLayer.isBracket (h : IsLayer layer) : ∀ s ∈ layer, s.isBracket = false := by
  cases h <;> simp [Symbol.isBracket]

theorem IsLayer.opening_notMem (h : IsLayer layer) : .opening ∉ layer :=
  fun hmem => absurd (h.isBracket _ hmem) (by decide)

theorem IsLayer.closing_notMem (h : IsLayer layer) : .closing ∉ layer :=
  fun hmem => absurd (h.isBracket _ hmem) (by decide)

/-- An operation that comes in applies the part of a layer that binds at least as tightly, and makes
a layer with the rest. -/
theorem IsLayer.operation (h : IsLayer layer) (o : Operation) :
    IsLayer (.operation o :: layer.dropWhile (·.reducesBefore (.operation o))) := by
  cases ho : o.isAdditive with
  | true =>
    -- everything in the layer goes before a sum or a difference
    have hnil : layer.dropWhile (·.reducesBefore (.operation o)) = [] := by
      cases h <;> simp [Symbol.reducesBefore, ho]
    rw [hnil]
    exact .single o
  | false =>
    have hmultiplicative : o.isMultiplicative = true := by
      rw [Operation.isMultiplicative, ho]
      rfl
    cases h with
    | nothing => exact .single o
    | single below =>
      cases hbelow : below.isAdditive with
      | true =>
        simpa [Symbol.reducesBefore, Operation.isMultiplicative, ho, hbelow] using
          IsLayer.pair hmultiplicative hbelow
      | false =>
        simpa [Symbol.reducesBefore, Operation.isMultiplicative, ho, hbelow] using
          IsLayer.single o
    | @pair upper lower hupper hlower =>
      have hstop : lower.isMultiplicative = false := by
        rw [Operation.isMultiplicative, hlower]
        rfl
      simpa [Symbol.reducesBefore, ho, hupper, hstop] using IsLayer.pair hmultiplicative hlower

/-- A bracket stops what is applied for an operation. -/
theorem dropWhile_reducesBefore_opening (layer below : List Symbol) (o : Operation) :
    (layer ++ .opening :: below).dropWhile (·.reducesBefore (.operation o)) =
      layer.dropWhile (·.reducesBefore (.operation o)) ++ .opening :: below := by
  have hstop : (Symbol.opening :: below).dropWhile (·.reducesBefore (.operation o)) =
      .opening :: below := rfl
  rw [List.dropWhile_append, hstop]
  split
  next hnil => rw [List.isEmpty_iff.1 hnil, List.nil_append]
  next => rfl

namespace Layered

theorem operation (h : Layered waiting) (o : Operation) :
    Layered (.operation o :: waiting.dropWhile (·.reducesBefore (.operation o))) := by
  cases h with
  | lowest hlayer => exact .lowest (hlayer.operation o)
  | above hlayer hbelow =>
    rw [dropWhile_reducesBefore_opening, ← List.cons_append]
    exact .above (hlayer.operation o) hbelow

theorem opening (h : Layered waiting) : Layered (.opening :: waiting) :=
  .above .nothing h

/-- A closing bracket takes the uppermost layer off, and the bracket below it. -/
theorem closing {below : List Symbol} (h : Layered waiting)
    (hdrop : waiting.dropWhile (· ≠ .opening) = .opening :: below) : Layered below := by
  have hskip (layer : List Symbol) (hlayer : IsLayer layer) :
      ∀ s ∈ layer, decide (s ≠ .opening) = true := by
    intro s hs
    rw [decide_eq_true_eq]
    rintro rfl
    exact hlayer.opening_notMem hs
  cases h with
  | lowest hlayer =>
    rw [List.dropWhile_eq_nil_iff.2 (hskip _ hlayer)] at hdrop
    cases hdrop
  | above hlayer hbelow =>
    rw [List.dropWhile_append_of_pos (hskip _ hlayer)] at hdrop
    cases hdrop
    exact hbelow

theorem closing_notMem (h : Layered waiting) : .closing ∉ waiting := by
  induction h with
  | lowest hlayer => exact hlayer.closing_notMem
  | above hlayer _ ih => simp [hlayer.closing_notMem, ih]

/-- Each bracket makes room for three more symbols: itself and a layer. -/
theorem length_le (h : Layered waiting) : waiting.length ≤ 3 * waiting.count .opening + 2 := by
  induction h with
  | lowest hlayer => exact Nat.le_add_left_of_le hlayer.length_le
  | above hlayer _ ih =>
    have hlength := hlayer.length_le
    rw [List.length_append, List.length_cons, List.count_append, List.count_cons_self,
      List.count_eq_zero_of_not_mem hlayer.opening_notMem]
    omega

end Layered

end Layers

/-! ## Runs -/

section Runs

variable {α : Type} {resolve : List Char → Except Failure α} {t : Token} {tokens : List Token}

/-- One token keeps what waits layered. -/
theorem TwoStacks.Step.layered {st next : TwoStacks α} (h : Step resolve st t next)
    (hst : Layered st.operators) : Layered next.operators := by
  cases h with
  | operand => exact hst
  | opening => exact hst.opening
  | operation => exact hst.operation _
  | closing _ hdrop => exact hst.closing hdrop

/-- A list of tokens keeps what waits layered. -/
theorem TwoStacks.layered_of_read {st next : TwoStacks α}
    (h : read resolve st tokens = .ok next) (hst : Layered st.operators) :
    Layered next.operators := by
  induction tokens generalizing st with
  | nil =>
    cases h
    exact hst
  | cons t tokens ih =>
    rw [read_cons] at h
    obtain ⟨between, hstep, hrest⟩ := bind_eq_ok.1 h
    exact ih hrest ((step_eq_ok_iff.1 hstep).layered hst)

/-- What a parser with limits has read, one without has read too. -/
theorem exists_shows_of_readTokens {limits : StackLimits} {st : ParseState α}
    (h : readTokens limits resolve tokens = .ok st) :
    ∃ lists, TwoStacks.read resolve {} tokens = .ok lists ∧
      st.Shows limits tokens.length lists := by
  obtain ⟨first, hfirst, hread⟩ := bind_eq_ok.1 h
  have hfollows := ParseState.read_follows resolve tokens (ParseState.shows_start hfirst)
  rw [hread, Nat.zero_add] at hfollows
  generalize TwoStacks.read resolve {} tokens = y at hfollows ⊢
  cases hfollows with
  | ok hshows => exact ⟨_, rfl, hshows⟩

/-- A parser that has read some tokens goes on from there. -/
theorem readTokens_of_take {limits : StackLimits} {st : ParseState α} {n : Nat}
    (h : readTokens limits resolve (tokens.take n) = .ok st) :
    readTokens limits resolve tokens = (tokens.drop n).foldlM (ParseState.step resolve) st := by
  obtain ⟨first, hfirst, hread⟩ := bind_eq_ok.1 h
  calc readTokens limits resolve tokens
      = (tokens.take n ++ tokens.drop n).foldlM (ParseState.step resolve) first := by
        rw [readTokens, hfirst, ok_bind, List.take_append_drop]
    _ = (tokens.drop n).foldlM (ParseState.step resolve) st := by
        rw [List.foldlM_append, hread, ok_bind]

/-- **What can wait at a time.**  Whatever the tokens and the limits are, at every point between two
tokens that the parser comes to, the symbols that wait are layers with an opening bracket between
neighbours: there is no closing bracket among them, and between brackets there are at most two
operations, of which the upper one is a product or a quotient and the lower one a sum or a
difference.  So with `d` brackets at most `3 * d + 2` symbols wait, and without brackets two. -/
theorem waiting_symbols_layered {limits : StackLimits} {st : ParseState α} {n : Nat}
    (h : readTokens limits resolve (tokens.take n) = .ok st) :
    readTokens limits resolve tokens = (tokens.drop n).foldlM (ParseState.step resolve) st ∧
      let waiting := st.operators.toList
      Layered waiting ∧ .closing ∉ waiting ∧ waiting.length ≤ 3 * waiting.count .opening + 2 ∧
        (.opening ∉ waiting → waiting.length ≤ 2) := by
  obtain ⟨lists, hread, hshows⟩ := exists_shows_of_readTokens h
  have hlayered : Layered st.operators.toList := by
    rw [hshows.operators.toList_eq]
    exact TwoStacks.layered_of_read hread (.lowest .nothing)
  refine ⟨readTokens_of_take h, hlayered, hlayered.closing_notMem, hlayered.length_le, ?_⟩
  intro hnone
  have hlength := hlayered.length_le
  rw [List.count_eq_zero_of_not_mem hnone] at hlength
  exact hlength

end Runs

/-- The theorem at `1 + 2 * ( 3 - 4 / 5 ) )` before the brackets close, where as many symbols wait
as one bracket allows. -/
theorem waiting_symbols_layered_full :
    let symbol (c : Char) : Token := ⟨.symbol, [c], 0⟩
    let number (digit : Char) : Token := ⟨.number, [digit], 0⟩
    let tokens := [number '1', symbol '+', number '2', symbol '*', symbol '(', number '3',
      symbol '-', number '4', symbol '/', number '5', symbol ')', symbol ')']
    let waiting : List Symbol := [.operation .division, .operation .subtraction, .opening,
      .operation .multiplication, .operation .sum]
    ∃ st : ParseState Float, readTokens {} (resolve none) (tokens.take 10) = .ok st ∧
      st.operators.toList = waiting ∧ Layered waiting ∧ waiting.length = 3 * 1 + 2 := by
  intro symbol number tokens waiting
  obtain ⟨st, hst, hwaiting⟩ : ∃ st : ParseState Float,
      readTokens {} (resolve none) (tokens.take 10) = .ok st ∧
        st.operators.toList = waiting := ⟨_, rfl, rfl⟩
  obtain ⟨-, hlayered, -⟩ := waiting_symbols_layered hst
  rw [hwaiting] at hlayered
  exact ⟨st, hst, hwaiting, hlayered, rfl⟩

end DeskCalculator
