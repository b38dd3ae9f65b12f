import DeskCalculator.Expr.Parser
import DeskCalculator.Proofs.Parser.Stacks

/-!
# Stacks with limits do what stacks without limits do

A parser whose stacks have limits runs in step with the one of `DeskCalculator.Expr.Unbounded`
until a stack of the latter gets higher than the limits fit, which does not happen if they fit the
number of tokens.

* `StackLimits.Fits` — stacks with these limits take so many elements.
* `Follows` — a computation with limits beside one without: both succeed with related results,
  both fail alike, or the one with limits overflows.
* `TwoStacks.Outgrows` — on the way through the tokens a stack gets higher than the limits fit.
* `parse_follows` — the parser with limits follows the one without, up to there.
* `parse_eq_parseUnbounded` and `parseUnbounded_of_parse` — what remains of this when there is
  room, and when there is a tree.
-/

namespace DeskCalculator

variable {α β γ δ ζ : Type}

/-! ## Computations side by side -/

/-- Whether stacks with these limits take `n` elements: after some number of growths the capacity
is enough and still in range. -/
def StackLimits.Fits (limits : StackLimits) (n : Nat) : Prop :=
  ∃ grown : Nat, (n : Int) ≤ limits.capacity + grown * limits.growth ∧
    limits.capacity + grown * limits.growth ≤ largestCapacity

namespace StackLimits

variable {limits : StackLimits} {m n : Nat}

/-- What has room has room for less. -/
theorem Fits.of_le (h : limits.Fits n) (hm : m ≤ n) : limits.Fits m := by
  obtain ⟨grown, hroom, hrange⟩ := h
  exact ⟨grown, by omega, hrange⟩

/-- A capacity that is enough from the start. -/
theorem fits_of_le_capacity (hn : (n : Int) ≤ limits.capacity)
    (hcapacity : limits.capacity ≤ largestCapacity) : limits.Fits n :=
  ⟨0, by simpa using hn, by simpa using hcapacity⟩

/-- If a growth from `n` on stays in range, then so does the one that is needed last. -/
theorem fits_of_add_growth_le (hgrowth : 1 ≤ limits.growth)
    (hcapacity : limits.capacity ≤ largestCapacity)
    (hn : (n : Int) + limits.growth ≤ largestCapacity) : limits.Fits n := by
  by_cases hle : (n : Int) ≤ limits.capacity
  · exact fits_of_le_capacity hle hcapacity
  · -- the number of growths is the shortage divided by the growth, rounded up
    obtain ⟨grown, hgrown⟩ : ∃ grown : Nat,
        (grown : Int) = ((n : Int) - limits.capacity - 1) / limits.growth + 1 := by
      have hquotient : 0 ≤ ((n : Int) - limits.capacity - 1) / limits.growth :=
        Int.ediv_nonneg (by omega) (by omega)
      exact ⟨(((n : Int) - limits.capacity - 1) / limits.growth + 1).toNat, by omega⟩
    have hdiv := Int.mul_ediv_add_emod ((n : Int) - limits.capacity - 1) limits.growth
    have hmod := Int.emod_lt_of_pos ((n : Int) - limits.capacity - 1)
      (show 0 < limits.growth by omega)
    have hmod' := Int.emod_nonneg ((n : Int) - limits.capacity - 1)
      (show limits.growth ≠ 0 by omega)
    refine ⟨grown, ?_, ?_⟩ <;>
    · rw [hgrown, Int.add_mul, Int.one_mul, Int.mul_comm]
      omega

end StackLimits

/-- A computation on stacks with limits beside one without: related results, the same failure,
or an overflow, which is possible only if `full` holds. -/
inductive Follows (full : Prop) (R : β → γ → Prop) : Except Failure β → Except Failure γ → Prop
  | ok {b : β} {c : γ} : R b c → Follows full R (.ok b) (.ok c)
  | error (e : Failure) : Follows full R (.error e) (.error e)
  | overflow (y : Except Failure γ) : full →
      Follows full R (.error (.stack .capacityOverflow)) y

theorem Follows.bind {full : Prop} {R : β → γ → Prop} {S : δ → ζ → Prop}
    {x : Except Failure β} {y : Except Failure γ} {f : β → Except Failure δ}
    {g : γ → Except Failure ζ} (h : Follows full R x y)
    (hfg : ∀ b c, y = .ok c → R b c → Follows full S (f b) (g c)) :
    Follows full S (x >>= f) (y >>= g) := by
  cases h with
  | ok hr => exact hfg _ _ rfl hr
  | error e => exact .error e
  | overflow y hfull => exact .overflow _ hfull

/-- A first part that cannot fail without limits. -/
theorem Follows.bind_of_ok {full : Prop} {R : β → γ → Prop} {S : δ → ζ → Prop}
    {x : Except Failure β} {c : γ} {f : β → Except Failure δ} {y : Except Failure ζ}
    (h : Follows full R x (.ok c)) (hf : ∀ b, R b c → Follows full S (f b) y) :
    Follows full S (x >>= f) y := by
  cases h with
  | ok hr => exact hf _ hr
  | overflow _ hfull => exact .overflow _ hfull

/-- The results of the computation with limits may be changed afterwards. -/
theorem Follows.map_left {full : Prop} {R : β → γ → Prop} {S : δ → γ → Prop}
    {x : Except Failure β} {y : Except Failure γ} {f : β → δ} (h : Follows full R x y)
    (hRS : ∀ b c, R b c → S (f b) c) : Follows full S (x >>= fun b => .ok (f b)) y := by
  cases h with
  | ok hr => exact .ok (hRS _ _ hr)
  | error e => exact .error e
  | overflow y hfull => exact .overflow _ hfull

theorem Follows.mono {full : Prop} {R S : β → γ → Prop} {x : Except Failure β}
    {y : Except Failure γ} (h : Follows full R x y) (hRS : ∀ b c, R b c → S b c) :
    Follows full S x y := by
  cases h with
  | ok hr => exact .ok (hRS _ _ hr)
  | error e => exact .error e
  | overflow y hfull => exact .overflow _ hfull

/-- An overflow that is possible under some condition is possible under a weaker one. -/
theorem Follows.imp {full full' : Prop} {R : β → γ → Prop} {x : Except Failure β}
    {y : Except Failure γ} (h : Follows full R x y) (hfull : full → full') :
    Follows full' R x y := by
  cases h with
  | ok hr => exact .ok hr
  | error e => exact .error e
  | overflow y hoverflow => exact .overflow y (hfull hoverflow)

/-! ## One stack -/

namespace BoundedStack

/-- A stack that was made with the given limits and now holds the given elements, at most `k`
of them.  Its capacity has grown in steps and is in range. -/
structure Holds (limits : StackLimits) (k : Nat) (s : BoundedStack β) (l : List β) : Prop where
  toList_eq : s.toList = l
  capacity_eq : (s.capacity : Int) = limits.capacity + s.growCount * limits.growth
  growth_eq : (s.growth : Int) = limits.growth
  growth_pos : 0 < s.growth
  size_le : s.size ≤ s.capacity
  capacity_le : s.capacity ≤ largestCapacity
  length_le : l.length ≤ k

variable {limits : StackLimits} {s t : BoundedStack β} {l : List β} {k m n : Nat}

theorem Holds.size_eq (h : s.Holds limits k l) : s.size = l.length := by
  rw [s.size_eq, ← h.toList_eq]
  rfl

theorem Holds.isEmpty_eq (h : s.Holds limits k l) : s.isEmpty = l.isEmpty := by
  rw [← h.toList_eq]
  rfl

theorem Holds.of_length_le (h : s.Holds limits k l) (hm : l.length ≤ m) : s.Holds limits m l :=
  { h with length_le := hm }

theorem Holds.succ (h : s.Holds limits k l) : s.Holds limits (k + 1) l :=
  h.of_length_le (Nat.le_succ_of_le h.length_le)

/-- The limits fit what a stack holds. -/
theorem Holds.fits (h : s.Holds limits k l) : limits.Fits l.length := by
  have hsize := h.size_eq
  have hle := h.size_le
  have hrange := h.capacity_le
  refine ⟨s.growCount, ?_, ?_⟩
  · rw [← h.capacity_eq]
    omega
  · rw [← h.capacity_eq]
    omega

theorem Holds.dropTop (h : s.Holds limits k l) (m : Nat) :
    (s.dropTop m).Holds limits k (l.drop m) := by
  refine ⟨?_, h.capacity_eq, h.growth_eq, h.growth_pos, ?_, h.capacity_le, ?_⟩
  · rw [toList_dropTop, h.toList_eq]
  · exact Nat.le_trans (Nat.sub_le s.size m) h.size_le
  · have := h.length_le
    rw [List.length_drop]
    omega

theorem Holds.pop_fst (h : s.Holds limits k l) : s.pop.1 = l.head? := by
  rw [← h.toList_eq]
  rfl

theorem Holds.pop_snd (h : s.Holds limits k l) : s.pop.2.Holds limits k l.tail := by
  rw [← List.drop_one]
  exact h.dropTop 1

/-- Where the limits fit one more than a full stack holds, its next growth stays in range. -/
theorem Holds.add_growth_le (h : s.Holds limits k l) (hfull : s.size = s.capacity)
    (hfits : limits.Fits (l.length + 1)) : s.capacity + s.growth ≤ largestCapacity := by
  obtain ⟨grown, hroom, hrange⟩ := hfits
  have hsize := h.size_eq
  have hgrowth := h.growth_eq
  have hpos : 0 ≤ limits.growth := by
    have := h.growth_pos
    omega
  have hless : (s.growCount : Int) * limits.growth < grown * limits.growth := by
    have hcapacity := h.capacity_eq
    omega
  have hgrown : (s.growCount : Int) + 1 ≤ grown := Int.lt_of_mul_lt_mul_right hless hpos
  have hnext := Int.mul_le_mul_of_nonneg_right hgrown hpos
  rw [Int.add_mul, Int.one_mul] at hnext
  have hcapacity := h.capacity_eq
  omega

/-- A push puts the element on top, and it overflows only where the limits do not fit one more. -/
theorem Holds.push (h : s.Holds limits k l) (a : β) :
    Follows (¬ limits.Fits (l.length + 1)) (Holds limits (k + 1)) (liftStack (s.push? a))
      (.ok (a :: l)) := by
  have htop : a :: s.items = a :: l := congrArg (a :: ·) h.toList_eq
  have hgrowth := h.growth_pos
  have hsize := h.size_le
  unfold push?
  by_cases hfull : s.size = s.capacity
  · rw [if_pos hfull]
    unfold grow?
    by_cases hmax : largestCapacity < s.capacity + s.growth
    · rw [if_pos hmax]
      refine .overflow _ fun hfits => ?_
      have hrange := h.add_growth_le hfull hfits
      omega
    · rw [if_neg hmax]
      refine .ok ⟨htop, ?_, h.growth_eq, hgrowth, ?_, Nat.le_of_not_lt hmax,
        Nat.succ_le_succ h.length_le⟩
      · show ((s.capacity + s.growth : Nat) : Int) =
          limits.capacity + (s.growCount + 1 : Nat) * limits.growth
        have hcapacity := h.capacity_eq
        have hstep := h.growth_eq
        rw [Int.natCast_add s.growCount, Int.add_mul]
        omega
      · show s.size + 1 ≤ s.capacity + s.growth
        omega
  · rw [if_neg hfull]
    refine .ok ⟨htop, h.capacity_eq, h.growth_eq, hgrowth, ?_, h.capacity_le,
      Nat.succ_le_succ h.length_le⟩
    show s.size + 1 ≤ s.capacity
    omega

/-- A new stack is empty. -/
theorem holds_new (h : new? limits = .ok s) : s.Holds limits 0 [] := by
  unfold new? at h
  split at h
  · cases h
  · split at h
    · cases h
    · split at h
      · cases h
      · cases h
        refine ⟨rfl, ?_, ?_, ?_, Nat.zero_le _, ?_, Nat.le_refl 0⟩
        · show (limits.capacity.toNat : Int) = limits.capacity + (0 : Nat) * limits.growth
          omega
        · show (limits.growth.toNat : Int) = limits.growth
          omega
        · show 0 < limits.growth.toNat
          omega
        · show limits.capacity.toNat ≤ largestCapacity
          omega

end BoundedStack

theorem liftStack_eq_ok {x : Except StackFailure β} {b : β} (h : liftStack x = .ok b) :
    x = .ok b := by
  cases x with
  | error e => cases h
  | ok a =>
    cases h
    rfl

open BoundedStack (Holds)

variable {limits : StackLimits} {k n : Nat} {s : Symbol} {operands : Operands α}
  {l : List (Expr α)}

/-! ## Reducing -/

/-- Two trees on the stack are joined. -/
theorem reduce_of_pops {right left : Expr α} (hright : operands.pop.1 = some right)
    (hleft : operands.pop.2.pop.1 = some left) :
    reduce operands s =
      Expr.combine? s left right >>= fun e => liftStack (operands.pop.2.pop.2.push? e) := by
  unfold reduce
  simp only [hright, hleft]

/-- Without a second tree nothing can be applied. -/
theorem reduce_of_missing (hleft : operands.pop.2.pop.1 = none) :
    reduce operands s = .error (.missingOperandOf s) := by
  unfold reduce
  simp only [hleft]

/-- Two trees make room for the one that they become, so nothing overflows here. -/
theorem reduce_follows {full : Prop} (h : Holds limits k operands l) :
    Follows full (Holds limits k) (reduce operands s) (reduceTop s l) := by
  have hright := h.pop_fst
  have hleft := h.pop_snd.pop_fst
  match l, h with
  | [], _ | [right], _ =>
    rw [reduce_of_missing hleft]
    exact .error _
  | right :: left :: rest, h =>
    have hlength : rest.length + 2 ≤ k := h.length_le
    have hfits : limits.Fits (rest.length + 1) := h.fits.of_le (Nat.le_succ _)
    have hrest : operands.pop.2.pop.2.Holds limits rest.length rest :=
      h.pop_snd.pop_snd.of_length_le (Nat.le_refl rest.length)
    rw [reduce_of_pops hright hleft]
    cases s with
    | operation o =>
      refine ((hrest.push _).imp fun hfull => absurd hfits hfull).mono fun _ _ hpush => ?_
      exact hpush.of_length_le (Nat.le_trans hpush.length_le (by omega))
    | opening => exact .error _
    | closing => exact .error _

/-- What a conditional reduction leaves with limits, beside what it leaves without: the number
of symbols that were applied tells which of them still wait. -/
def ReducedTo (limits : StackLimits) (k : Nat) (waiting : List Symbol) (x : Nat × Operands α)
    (st : TwoStacks α) : Prop :=
  st.operators = waiting.drop x.1 ∧ x.2.Holds limits k st.operands

theorem reduceWhile_follows {full : Prop} (condition : Symbol → Bool) (waiting : List Symbol)
    (h : Holds limits k operands l) :
    Follows full (ReducedTo limits k waiting) (reduceWhile condition waiting operands)
      (TwoStacks.reduceWhile condition waiting l) := by
  induction waiting generalizing operands l with
  | nil => exact .ok ⟨rfl, h⟩
  | cons s waiting ih =>
    rw [reduceWhile, TwoStacks.reduceWhile]
    by_cases hs : condition s = true
    · rw [if_pos hs, if_pos hs]
      refine (reduce_follows h).bind fun reduced m _ hm => ?_
      exact (ih hm).map_left fun x st hx => ⟨hx.1, hx.2⟩
    · rw [if_neg hs, if_neg hs]
      exact .ok ⟨rfl, h⟩

/-! ## Outgrown limits -/

namespace TwoStacks

/-- The limits fit both stacks. -/
def Within (limits : StackLimits) (lists : TwoStacks α) : Prop :=
  limits.Fits lists.operators.length ∧ limits.Fits lists.operands.length

/-- A computation without limits ends with a stack that the limits do not fit. -/
def EndsOutside (limits : StackLimits) (y : Except Failure (TwoStacks α)) : Prop :=
  ∃ next, y = .ok next ∧ ¬ next.Within limits

/-- On the way through a list of tokens a stack gets higher than the limits fit. -/
def Outgrows (limits : StackLimits) (resolve : List Char → Except Failure α)
    (lists : TwoStacks α) (tokens : List Token) : Prop :=
  ∃ before, before <+: tokens ∧ EndsOutside limits (read resolve lists before)

variable {resolve : List Char → Except Failure α} {lists next : TwoStacks α} {t : Token}
  {tokens : List Token}

theorem Outgrows.of_step (h : EndsOutside limits (step resolve lists t)) :
    Outgrows limits resolve lists (t :: tokens) :=
  ⟨[t], ⟨tokens, rfl⟩, by rwa [read_singleton]⟩

theorem Outgrows.cons (hstep : step resolve lists t = .ok next)
    (h : Outgrows limits resolve next tokens) : Outgrows limits resolve lists (t :: tokens) := by
  obtain ⟨before, hprefix, houtside⟩ := h
  refine ⟨t :: before, List.cons_prefix_cons.2 ⟨rfl, hprefix⟩, ?_⟩
  rwa [read_cons, hstep, ok_bind]

/-- Limits that fit the number of tokens are not outgrown. -/
theorem not_outgrows_of_fits (hfits : limits.Fits tokens.length) :
    ¬ Outgrows limits resolve {} tokens := by
  rintro ⟨before, hprefix, next, hread, houtside⟩
  obtain ⟨hoperators, hoperands⟩ := length_le_of_read hread
  have hbefore := hprefix.length_le
  simp only [List.length_nil, Nat.zero_add] at hoperators hoperands
  exact houtside ⟨hfits.of_le (hoperators.trans hbefore), hfits.of_le (hoperands.trans hbefore)⟩

end TwoStacks

open TwoStacks (EndsOutside)

/-! ## One token -/

/-- The state of a parser with limits beside that of one without, after at most `k` tokens. -/
structure ParseState.Shows (limits : StackLimits) (k : Nat) (st : ParseState α)
    (lists : TwoStacks α) : Prop where
  operators : st.operators.Holds limits k lists.operators
  operands : st.operands.Holds limits k lists.operands

namespace ParseState

variable {st : ParseState α} {lists : TwoStacks α}

theorem Shows.within (h : st.Shows limits k lists) : lists.Within limits :=
  ⟨h.operators.fits, h.operands.fits⟩

theorem pushSymbol_follows (h : st.Shows limits k lists) :
    Follows (EndsOutside limits (lists.pushSymbol s)) (Shows limits (k + 1)) (st.pushSymbol s)
      (lists.pushSymbol s) := by
  unfold pushSymbol TwoStacks.pushSymbol
  rw [h.operators.toList_eq]
  refine (reduceWhile_follows (·.reducesBefore s) lists.operators h.operands).bind ?_
  rintro ⟨applied, operands⟩ ⟨waiting, trees⟩ heq ⟨rfl, htrees⟩
  rw [heq]
  show Follows _ _ (liftStack ((st.operators.dropTop applied).push? s) >>= _) _
  have hpush := (h.operators.dropTop applied).push s
  refine (hpush.imp fun hfull => ?_).bind_of_ok fun operators hoperators => ?_
  · exact ⟨_, rfl, fun hwithin => hfull hwithin.1⟩
  · exact .ok ⟨hoperators, htrees.succ⟩

theorem closeBracket_follows {full : Prop} (h : st.Shows limits k lists) :
    Follows full (Shows limits k) st.closeBracket lists.closeBracket := by
  unfold closeBracket TwoStacks.closeBracket
  rw [h.operators.toList_eq]
  refine (reduceWhile_follows _ _ h.operands).bind ?_
  rintro ⟨applied, operands⟩ ⟨waiting, trees⟩ - ⟨rfl, htrees⟩
  have hwaiting := h.operators.dropTop applied
  show Follows _ _ (if (st.operators.dropTop applied).isEmpty then _ else _) _
  rw [hwaiting.isEmpty_eq]
  cases hdrop : lists.operators.drop applied with
  | nil => exact .error _
  | cons s waiting =>
    rw [hdrop] at hwaiting
    exact .ok ⟨hwaiting.dropTop 1, htrees⟩

/-- One token has the same effect with limits and without, unless a stack is too high after it. -/
theorem step_follows (resolve : List Char → Except Failure α) (t : Token)
    (h : st.Shows limits k lists) :
    Follows (EndsOutside limits (lists.step resolve t)) (Shows limits (k + 1)) (st.step resolve t)
      (lists.step resolve t) := by
  unfold step TwoStacks.step
  by_cases hop : t.isOperand = true
  · rw [if_pos hop, if_pos hop]
    cases resolve t.text with
    | error e => exact .error e
    | ok a =>
      show Follows _ _ (liftStack (st.operands.push? (.value a)) >>= _) _
      refine ((h.operands.push _).imp fun hfull => ?_).bind_of_ok fun operands hoperands => ?_
      · exact ⟨_, rfl, fun hwithin => hfull hwithin.2⟩
      · exact .ok ⟨h.operators.succ, hoperands⟩
  · rw [if_neg hop, if_neg hop]
    cases hs : Symbol.ofText? t.text with
    | none => exact .error _
    | some s =>
      cases s with
      | operation o => exact pushSymbol_follows h
      | opening => exact pushSymbol_follows h
      | closing =>
        exact (closeBracket_follows h).mono fun _ _ hst => ⟨hst.operators.succ, hst.operands.succ⟩

/-! ## All tokens -/

theorem read_follows (resolve : List Char → Except Failure α) (tokens : List Token)
    (h : st.Shows limits k lists) :
    Follows (lists.Outgrows limits resolve tokens) (Shows limits (k + tokens.length))
      (tokens.foldlM (ParseState.step resolve) st) (TwoStacks.read resolve lists tokens) := by
  induction tokens generalizing k st lists with
  | nil => exact .ok h
  | cons t rest ih =>
    rw [List.foldlM_cons, TwoStacks.read_cons, List.length_cons, Nat.add_comm rest.length,
      ← Nat.add_assoc]
    refine ((step_follows resolve t h).imp TwoStacks.Outgrows.of_step).bind ?_
    intro next lists' hstep hnext
    exact (ih hnext).imp fun hrest => hrest.cons hstep

/-- The end of the tokens has the same effect with limits and without. -/
theorem finish_follows {full : Prop} (h : st.Shows limits k lists) :
    Follows full Eq (st.drain >>= finish) lists.finish := by
  unfold drain TwoStacks.finish
  rw [h.operators.toList_eq, bind_assoc]
  refine (reduceWhile_follows _ _ h.operands).bind ?_
  rintro ⟨applied, operands⟩ ⟨waiting, trees⟩ - ⟨rfl, htrees⟩
  show Follows _ _ ((if (st.operators.dropTop applied).isEmpty then _ else _) >>= finish) _
  rw [(h.operators.dropTop applied).isEmpty_eq]
  cases hdrop : lists.operators.drop applied with
  | cons s waiting => exact .error _
  | nil =>
    show Follows _ _ (finish ⟨_, operands⟩) _
    have hpop : operands.pop = (trees.head?, operands.pop.2) := Prod.ext htrees.pop_fst rfl
    unfold finish
    rw [hpop]
    match trees, htrees with
    | [], _ => exact .error _
    | [e], htrees =>
      show Follows _ _ (if operands.pop.2.isEmpty then _ else _) _
      rw [htrees.pop_snd.isEmpty_eq]
      exact .ok rfl
    | e :: other :: rest, htrees =>
      show Follows _ _ (if operands.pop.2.isEmpty then _ else _) _
      rw [htrees.pop_snd.isEmpty_eq]
      exact .error _

theorem shows_start (h : start limits = .ok st) : st.Shows limits 0 {} := by
  unfold start at h
  obtain ⟨operators, hoperators, h⟩ := bind_eq_ok.1 h
  obtain ⟨operands, hoperands, h⟩ := bind_eq_ok.1 h
  cases h
  exact ⟨BoundedStack.holds_new (liftStack_eq_ok hoperators),
    BoundedStack.holds_new (liftStack_eq_ok hoperands)⟩

end ParseState

/-- The parser with limits follows the one without, once its stacks are made, as long as these are
not outgrown. -/
theorem parse_follows {resolve : List Char → Except Failure α} {tokens : List Token}
    {st : ParseState α} (h : ParseState.start limits = .ok st) :
    Follows (TwoStacks.Outgrows limits resolve {} tokens) Eq (parse limits resolve tokens)
      (parseUnbounded resolve tokens) := by
  unfold parse
  cases tokens with
  | nil => exact .error _
  | cons t rest =>
    rw [parseUnbounded_eq (by simp), if_neg (by simp), readTokens, h]
    refine (ParseState.read_follows resolve (t :: rest) (ParseState.shows_start h)).bind ?_
    exact fun st lists _ hst => ParseState.finish_follows hst

/-- Where the stacks are outgrown, the parser with limits overflows. -/
theorem parse_eq_overflow_of_outgrows {resolve : List Char → Except Failure α}
    {tokens : List Token} {st : ParseState α} (h : ParseState.start limits = .ok st)
    (houtgrows : TwoStacks.Outgrows limits resolve {} tokens) :
    parse limits resolve tokens = .error (.stack .capacityOverflow) := by
  obtain ⟨before, ⟨behind, rfl⟩, next, hread, houtside⟩ := houtgrows
  have hfollows := ParseState.read_follows resolve before (ParseState.shows_start h)
  rw [hread] at hfollows
  have hoverflow : before.foldlM (ParseState.step resolve) st =
      .error (.stack .capacityOverflow) := by
    generalize before.foldlM (ParseState.step resolve) st = x at hfollows
    cases hfollows with
    | ok hst => exact absurd hst.within houtside
    | overflow _ _ => rfl
  have hne : before ++ behind ≠ [] := by
    intro hnil
    rw [(List.append_eq_nil_iff.1 hnil).1] at hoverflow
    cases hoverflow
  rw [parse, if_neg (by simpa using hne), readTokens, h, ok_bind, List.foldlM_append, hoverflow]
  rfl

/-- Where the stacks are not outgrown, limits make no difference. -/
theorem parse_of_not_outgrows {resolve : List Char → Except Failure α} {tokens : List Token}
    {st : ParseState α} (h : ParseState.start limits = .ok st)
    (hwithin : ¬ TwoStacks.Outgrows limits resolve {} tokens) :
    parse limits resolve tokens = parseUnbounded resolve tokens := by
  have hfollows : Follows _ Eq (parse limits resolve tokens) (parseUnbounded resolve tokens) :=
    parse_follows h
  generalize parse limits resolve tokens = x at hfollows
  generalize parseUnbounded resolve tokens = y at hfollows
  cases hfollows with
  | ok hr => rw [hr]
  | error e => rfl
  | overflow _ houtgrows => exact absurd houtgrows hwithin

/-- With room for all tokens, limits make no difference. -/
theorem parse_eq_parseUnbounded {resolve : List Char → Except Failure α} {tokens : List Token}
    {st : ParseState α} (h : ParseState.start limits = .ok st) (hfits : limits.Fits tokens.length) :
    parse limits resolve tokens = parseUnbounded resolve tokens :=
  parse_of_not_outgrows h (TwoStacks.not_outgrows_of_fits hfits)

/-- A tree that is found with limits is found without. -/
theorem parseUnbounded_of_parse {resolve : List Char → Except Failure α} {tokens : List Token}
    {e : Expr α} (h : parse limits resolve tokens = .ok e) :
    parseUnbounded resolve tokens = .ok e := by
  have hstart : ∃ st : ParseState α, ParseState.start limits = .ok st := by
    unfold parse at h
    split at h
    · cases h
    · obtain ⟨st, hread, -⟩ := bind_eq_ok.1 h
      unfold readTokens at hread
      obtain ⟨first, hfirst, -⟩ := bind_eq_ok.1 hread
      exact ⟨first, hfirst⟩
  obtain ⟨st, hst⟩ := hstart
  have hfollows : Follows _ Eq (parse limits resolve tokens) (parseUnbounded resolve tokens) :=
    parse_follows hst
  rw [h] at hfollows
  generalize parseUnbounded resolve tokens = y at hfollows
  cases hfollows with
  | ok hr => rw [hr]

/-- The stacks that nobody sets limits for have room for nearly as many tokens as can be
counted. -/
theorem parse_default {resolve : List Char → Except Failure α} {tokens : List Token}
    (h : tokens.length < largestCapacity - 32) :
    parse {} resolve tokens = parseUnbounded resolve tokens := by
  have hstart : ParseState.start (α := α) {} =
      .ok ⟨⟨[], 0, 10, 32, 0, rfl⟩, ⟨[], 0, 10, 32, 0, rfl⟩⟩ := rfl
  refine parse_eq_parseUnbounded hstart (StackLimits.fits_of_add_growth_le ?_ ?_ ?_)
  · decide
  · decide
  · show (tokens.length : Int) + 32 ≤ largestCapacity
    omega

/-! ## Limits that make sense -/

/-- Limits that a stack may be asked for: no capacity below zero and no growth below one. -/
structure StackLimits.Sensible (limits : StackLimits) : Prop where
  capacity_nonneg : 0 ≤ limits.capacity
  growth_pos : 1 ≤ limits.growth

/-- What is no room for anything is what is out of range from the start. -/
theorem StackLimits.Fits.capacity_le (h : limits.Fits n) (hsensible : limits.Sensible) :
    limits.capacity ≤ largestCapacity := by
  obtain ⟨grown, -, hrange⟩ := h
  have hgrowth := hsensible.growth_pos
  have hnonneg : 0 ≤ (grown : Int) * limits.growth := Int.mul_nonneg (by omega) (by omega)
  omega

/-- Two stacks with sensible limits are made, unless their capacity is out of range. -/
theorem ParseState.start_cases (hsensible : limits.Sensible) :
    ((limits.capacity ≤ largestCapacity) ∧ ∃ st : ParseState α, start limits = .ok st) ∨
      (largestCapacity < limits.capacity ∧
        start limits = (.error (.stack .capacityTooLarge) : Except Failure (ParseState α))) := by
  have hnonneg := hsensible.capacity_nonneg
  have hgrowth := hsensible.growth_pos
  by_cases hcapacity : (largestCapacity : Int) < limits.capacity
  · refine .inr ⟨hcapacity, ?_⟩
    simp only [start, BoundedStack.new?, if_neg (Int.not_lt.2 hnonneg), if_pos hcapacity]
    rfl
  · refine .inl ⟨Int.not_lt.1 hcapacity, ?_⟩
    simp only [start, BoundedStack.new?, if_neg (Int.not_lt.2 hnonneg), if_neg hcapacity,
      if_neg (Int.not_lt.2 hgrowth)]
    exact ⟨_, rfl⟩

section Sensible

variable {resolve : List Char → Except Failure α} {tokens : List Token}

/-- A failure for want of room. -/
def Failure.IsOverflow (e : Failure) : Prop :=
  e = .stack .capacityTooLarge ∨ e = .stack .capacityOverflow

/-- Sensible limits make no other difference than a failure for want of room. -/
theorem parse_eq_or_overflow (hsensible : limits.Sensible) (resolve : List Char → Except Failure α)
    (tokens : List Token) :
    parse limits resolve tokens = parseUnbounded resolve tokens ∨
      ∃ e : Failure, e.IsOverflow ∧ parse limits resolve tokens = .error e := by
  rcases ParseState.start_cases (α := α) hsensible with ⟨-, st, hst⟩ | ⟨-, hfails⟩
  · by_cases houtgrows : TwoStacks.Outgrows limits resolve {} tokens
    · exact .inr ⟨_, .inr rfl, parse_eq_overflow_of_outgrows hst houtgrows⟩
    · exact .inl (parse_of_not_outgrows hst houtgrows)
  · cases tokens with
    | nil => exact .inl rfl
    | cons t rest =>
      refine .inr ⟨_, .inl rfl, ?_⟩
      rw [parse, if_neg (by simp), readTokens, hfails]
      rfl

/-- Sensible limits that fit the number of tokens make no difference at all. -/
theorem parse_of_fits (hsensible : limits.Sensible) (hfits : limits.Fits tokens.length)
    (resolve : List Char → Except Failure α) :
    parse limits resolve tokens = parseUnbounded resolve tokens := by
  rcases ParseState.start_cases (α := α) hsensible with ⟨-, st, hst⟩ | ⟨hlarge, -⟩
  · exact parse_eq_parseUnbounded hst hfits
  · have hcapacity := hfits.capacity_le hsensible
    omega

/-! ## Room that is needed -/

/-- Opening brackets wait one behind the other. -/
theorem TwoStacks.read_openings (htokens : ∀ t ∈ tokens, t.symbol? = some .opening)
    (resolve : List Char → Except Failure α) (lists : TwoStacks α) :
    TwoStacks.read resolve lists tokens =
      .ok { lists with operators := List.replicate tokens.length .opening ++ lists.operators } := by
  induction tokens generalizing lists with
  | nil => rfl
  | cons t tokens ih =>
    obtain ⟨ht, hrest⟩ := List.forall_mem_cons.1 htokens
    rw [TwoStacks.read_cons, TwoStacks.step_opening ht, ok_bind, ih hrest, List.length_cons,
      List.replicate_succ']
    simp

/-- Opening brackets take all the room there is: each of them waits for its partner. -/
theorem overflow_of_openings (hsensible : limits.Sensible) (hne : tokens ≠ [])
    (htokens : ∀ t ∈ tokens, t.symbol? = some .opening) (hfits : ¬ limits.Fits tokens.length)
    (resolve : List Char → Except Failure α) :
    ∃ e : Failure, e.IsOverflow ∧ parse limits resolve tokens = .error e := by
  rcases ParseState.start_cases (α := α) hsensible with ⟨-, st, hst⟩ | ⟨-, hfails⟩
  · refine ⟨_, .inr rfl, parse_eq_overflow_of_outgrows hst ⟨tokens, List.prefix_refl _, ?_⟩⟩
    refine ⟨_, TwoStacks.read_openings htokens resolve {}, fun hwithin => hfits ?_⟩
    simpa using hwithin.1
  · refine ⟨_, .inl rfl, ?_⟩
    rw [parse, if_neg (by simpa using hne), readTokens, hfails]
    rfl

end Sensible

end DeskCalculator
