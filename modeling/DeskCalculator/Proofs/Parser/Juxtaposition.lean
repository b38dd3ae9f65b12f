import DeskCalculator.Proofs.Parser.Stacks
import DeskCalculator.Text.Pieces

/-!
# What the two stacks accept

The two stacks do not ask whether an operand or an operation is due.  So they read more than the
sums, products and factors of `Writes`: where one factor belongs, any number of factors may stand
side by side, and also none.  What such a list does is said by what it does to a stack of trees.

* `Builds` — a list of tokens, read in a tier, takes a stack of trees to another.
* `Builds.read` — the two stacks do what `Builds` says, whatever waits below.
* `Waiting`, `Reached` — what has been read when symbols wait: each of them has behind it
  a finished phrase of its tier.
* `Reached.step` — one token keeps this, and `Reached.read` — so does a list of them.
* `parseUnbounded_eq_ok_iff` — a list gives a tree exactly when it builds this tree from nothing.
-/

namespace DeskCalculator

variable {α : Type}

/-! ## The order of the tiers -/

/-- How loose a tier is. -/
def Tier.looseness : Tier → Nat
  | .factor => 0
  | .product => 1
  | .sum => 2

/-- A tier is below the looser ones. -/
instance : LE Tier := ⟨fun t u => t.looseness ≤ u.looseness⟩

instance : DecidableLE Tier := fun t u => inferInstanceAs (Decidable (t.looseness ≤ u.looseness))

theorem Tier.le_refl (t : Tier) : t ≤ t := Nat.le_refl t.looseness

theorem Tier.le_trans {t u v : Tier} (htu : t ≤ u) (huv : u ≤ v) : t ≤ v := Nat.le_trans htu huv

theorem Tier.factor_le (t : Tier) : .factor ≤ t := Nat.zero_le t.looseness

theorem Tier.le_sum (t : Tier) : t ≤ .sum := by
  cases t <;> decide

namespace Operation

theorem not_tier_le_factor (o : Operation) : ¬ o.tier ≤ .factor := by
  cases o <;> decide

theorem rightTier_le_tier (o : Operation) : o.rightTier ≤ o.tier := by
  cases o <;> decide

/-- On the right of an operation stands what is tighter than it. -/
theorem tier_le_rightTier_iff {o p : Operation} : p.tier ≤ o.rightTier ↔ ¬ o.tier ≤ p.tier := by
  cases o <;> cases p <;> decide

end Operation

/-- A waiting operation goes before an incoming one that is at least as loose. -/
theorem Symbol.reducesBefore_iff {o p : Operation} :
    (Symbol.operation p).reducesBefore (.operation o) = true ↔ p.tier ≤ o.tier := by
  cases o <;> cases p <;> decide

/-! ## Juxtaposition -/

/-- A list of tokens, read in a tier, takes a stack of trees to another.  In the tightest tier
factors stand side by side, in any number: an operand puts its value on the stack, and brackets
do what is in them.  An operation joins the top two trees when both its sides are read. -/
inductive Builds (resolve : List Char → Except Failure α) :
    Tier → List Token → List (Expr α) → List (Expr α) → Prop
  /-- Nothing changes nothing. -/
  | nothing {s : List (Expr α)} : Builds resolve .factor [] s s
  /-- An operand comes on top. -/
  | operand {tokens : List Token} {t : Token} {a : α} {s s' : List (Expr α)} :
      Builds resolve .factor tokens s s' → t.isOperand = true → resolve t.text = .ok a →
      Builds resolve .factor (tokens ++ [t]) s (.value a :: s')
  /-- Brackets do what is in them. -/
  | brackets {tokens inner : List Token} {opening closing : Token} {s s' s'' : List (Expr α)} :
      Builds resolve .factor tokens s s' → opening.symbol? = some .opening →
      Builds resolve .sum inner s' s'' → closing.symbol? = some .closing →
      Builds resolve .factor (tokens ++ opening :: (inner ++ [closing])) s s''
  /-- Factors side by side are a product. -/
  | product {tokens : List Token} {s s' : List (Expr α)} :
      Builds resolve .factor tokens s s' → Builds resolve .product tokens s s'
  /-- A product is a sum. -/
  | sum {tokens : List Token} {s s' : List (Expr α)} :
      Builds resolve .product tokens s s' → Builds resolve .sum tokens s s'
  /-- An operation joins the top two trees when its right side is read. -/
  | join {left right : List Token} {t : Token} {o : Operation} {l r : Expr α}
      {s s' rest : List (Expr α)} :
      Builds resolve o.tier left s s' → t.symbol? = some (.operation o) →
      Builds resolve o.rightTier right s' (r :: l :: rest) →
      Builds resolve o.tier (left ++ t :: right) s (.node o l r :: rest)

variable {resolve : List Char → Except Failure α} {tier target : Tier}
  {tokens before phrase : List Token} {s s' operands result : List (Expr α)}
  {operators : List Symbol}

theorem Builds.mono (h : Builds resolve tier tokens s s') (hle : tier ≤ target) :
    Builds resolve target tokens s s' := by
  cases tier with
  | factor =>
    cases target with
    | factor => exact h
    | product => exact .product h
    | sum => exact .sum (.product h)
  | product =>
    cases target with
    | factor => exact absurd hle (by decide)
    | product => exact h
    | sum => exact .sum h
  | sum =>
    cases target with
    | factor => exact absurd hle (by decide)
    | product => exact absurd hle (by decide)
    | sum => exact h

/-- No tokens change nothing. -/
theorem Builds.eq_of_nil (h : Builds resolve tier tokens s s') (hnil : tokens = []) : s' = s := by
  induction h with
  | nothing => rfl
  | operand | brackets | join => simp at hnil
  | product _ ih | sum _ ih => exact ih hnil

/-- What lies below the stack is not touched. -/
theorem Builds.append_right (h : Builds resolve tier tokens s s') (below : List (Expr α)) :
    Builds resolve tier tokens (s ++ below) (s' ++ below) := by
  induction h with
  | nothing => exact .nothing
  | operand _ hop ha ih => exact .operand ih hop ha
  | brackets _ hopening _ hclosing ih ihinner => exact .brackets ih hopening ihinner hclosing
  | product _ ih => exact .product ih
  | sum _ ih => exact .sum ih
  | join _ hs _ ihleft ihright => exact .join ihleft hs ihright

/-! ## The stacks do what is built -/

/-- No operation of a tier makes the topmost waiting symbol be applied. -/
def Calm (tier : Tier) (operators : List Symbol) : Prop :=
  ∀ s ∈ operators.head?, ∀ o : Operation, o.tier ≤ tier → s.reducesBefore (.operation o) = false

theorem calm_nil : Calm tier [] := by
  intro s hs
  cases hs

theorem calm_opening : Calm tier (.opening :: operators) := by
  intro s hs o _
  cases hs
  rfl

/-- In the tightest tier there is no operation that could disturb anything. -/
theorem calm_factor : Calm .factor operators :=
  fun _ _ o ho => absurd ho o.not_tier_le_factor

theorem Calm.mono (h : Calm target operators) (hle : tier ≤ target) : Calm tier operators :=
  fun s hs o ho => h s hs o (Tier.le_trans ho hle)

theorem calm_operation (o : Operation) : Calm o.rightTier (.operation o :: operators) := by
  intro s hs p hp
  cases hs
  rw [← Bool.not_eq_true, Symbol.reducesBefore_iff]
  exact Operation.tier_le_rightTier_iff.1 hp

/-- Where an operation does not make the topmost symbol be applied, no tighter one does. -/
theorem calm_of_head {o : Operation}
    (h : ∀ s ∈ operators.head?, s.reducesBefore (.operation o) = false) :
    Calm o.tier operators := by
  intro s hs p hp
  have hso := h s hs
  cases s with
  | operation q =>
    rw [← Bool.not_eq_true, Symbol.reducesBefore_iff] at hso ⊢
    exact fun hqp => hso (Tier.le_trans hqp hp)
  | opening => rfl
  | closing => rfl

/-- Operations of the tightest tier do not exist. -/
theorem pending_eq_nil {pending : List Operation} (h : ∀ o ∈ pending, o.tier ≤ .factor) :
    pending = [] := by
  cases pending with
  | nil => rfl
  | cons o rest => exact absurd (h o List.mem_cons_self) o.not_tier_le_factor

/-- The two stacks read what a list builds, from any state in which no operation of its tier
disturbs what waits: behind it some operations of the tier wait, and applying them gives what
the list builds. -/
theorem Builds.read (h : Builds resolve tier tokens s s') :
    ∀ operators, Calm tier operators → ∃ (pending : List Operation) (operands : List (Expr α)),
      TwoStacks.read resolve ⟨operators, s⟩ tokens =
          .ok ⟨pending.map .operation ++ operators, operands⟩ ∧
        (∀ o ∈ pending, o.tier ≤ tier) ∧ reduceAll (pending.map .operation) operands = .ok s' := by
  induction h with
  | nothing =>
    intro operators _
    exact ⟨[], _, rfl, by simp, rfl⟩
  | operand _ hop ha ih =>
    intro operators hcalm
    obtain ⟨pending, operands, hread, htier, hreduce⟩ := ih operators hcalm
    obtain rfl := pending_eq_nil htier
    cases hreduce
    refine ⟨[], _, ?_, by simp, rfl⟩
    rw [TwoStacks.read_append, hread, ok_bind, TwoStacks.read_singleton,
      TwoStacks.step_operand hop, ha]
    rfl
  | @brackets tokens inner opening closing s s' s'' _ hopening _ hclosing ih ihinner =>
    intro operators hcalm
    obtain ⟨pending, operands, hread, htier, hreduce⟩ := ih operators hcalm
    obtain rfl := pending_eq_nil htier
    cases hreduce
    obtain ⟨pending, inside, hinner, -, hreduce⟩ := ihinner (.opening :: operators) calm_opening
    have hcut := takeWhile_dropWhile_append (p := fun s => decide (s ≠ Symbol.opening))
      (l := pending.map .operation) (m := .opening :: operators) (by simp) (by simp)
    have hclose : TwoStacks.step resolve ⟨pending.map .operation ++ .opening :: operators, inside⟩
        closing = .ok ⟨operators, s''⟩ := by
      refine TwoStacks.step_eq_ok_iff.2 (.closing hclosing hcut.2 ?_)
      rw [hcut.1]
      exact hreduce
    refine ⟨[], _, ?_, by simp, rfl⟩
    rw [TwoStacks.read_append, hread, ok_bind, TwoStacks.read_cons,
      TwoStacks.step_opening hopening, ok_bind, TwoStacks.read_append]
    rw [List.map_nil, List.nil_append, hinner, ok_bind, TwoStacks.read_singleton, hclose]
  | product _ ih =>
    intro operators hcalm
    obtain ⟨pending, operands, hread, htier, hreduce⟩ := ih operators (hcalm.mono (by decide))
    exact ⟨pending, operands, hread, fun o ho => Tier.le_trans (htier o ho) (by decide), hreduce⟩
  | sum _ ih =>
    intro operators hcalm
    obtain ⟨pending, operands, hread, htier, hreduce⟩ := ih operators (hcalm.mono (by decide))
    exact ⟨pending, operands, hread, fun o ho => Tier.le_trans (htier o ho) (by decide), hreduce⟩
  | @join left right t o l r s s' rest _ hs _ ihleft ihright =>
    intro operators hcalm
    obtain ⟨pending, operands, hread, htier, hreduce⟩ := ihleft operators hcalm
    obtain ⟨waiting, trees, hright, hwaiting, htrees⟩ :=
      ihright (.operation o :: operators) (calm_operation o)
    have hcut := takeWhile_dropWhile_append
      (p := fun s => s.reducesBefore (Symbol.operation o)) (l := pending.map .operation)
      (m := operators) (by simpa [Symbol.reducesBefore_iff] using htier)
      (fun s hs => hcalm s hs o (Tier.le_refl _))
    refine ⟨waiting ++ [o], trees, ?_, ?_, ?_⟩
    · rw [TwoStacks.read_append, hread, ok_bind, TwoStacks.read_cons,
        TwoStacks.step_operation hs, TwoStacks.pushSymbol_eq]
      simp only [hcut.1, hcut.2, hreduce, map_ok, ok_bind]
      rw [hright]
      simp
    · intro p hp
      rcases List.mem_append.1 hp with hp | hp
      · exact Tier.le_trans (hwaiting p hp) o.rightTier_le_tier
      · rw [List.mem_singleton.1 hp]
        exact Tier.le_refl _
    · rw [List.map_append, reduceAll_append, htrees]
      rfl

/-! ## The stacks do nothing else -/

/-- Tokens up to the topmost waiting symbol, with the symbols that wait and the trees so far.
Below an opening bracket lies what may stand before a factor, below an operation its left side,
which no waiting symbol could still take part of. -/
inductive Waiting (resolve : List Char → Except Failure α) :
    List Token → List Symbol → List (Expr α) → Prop
  /-- At the start nothing waits. -/
  | nothing : Waiting resolve [] [] []
  /-- An opening bracket waits behind the factors before it. -/
  | opening {before phrase : List Token} {t : Token} {operators : List Symbol}
      {s s' : List (Expr α)} :
      Waiting resolve before operators s → Builds resolve .factor phrase s s' →
      t.symbol? = some .opening →
      Waiting resolve (before ++ (phrase ++ [t])) (.opening :: operators) s'
  /-- An operation waits behind its left side. -/
  | operation {before phrase : List Token} {t : Token} {o : Operation} {operators : List Symbol}
      {s s' : List (Expr α)} :
      Waiting resolve before operators s → Builds resolve o.tier phrase s s' →
      t.symbol? = some (.operation o) → Calm o.tier operators →
      Waiting resolve (before ++ (phrase ++ [t])) (.operation o :: operators) s'

/-- Tokens that have been read: those up to the topmost waiting symbol, and behind them a phrase
of a tier. -/
def Reached (resolve : List Char → Except Failure α) (tier : Tier) (tokens : List Token)
    (operators : List Symbol) (operands : List (Expr α)) : Prop :=
  ∃ before phrase s, tokens = before ++ phrase ∧ Waiting resolve before operators s ∧
    Builds resolve tier phrase s operands

theorem Reached.mono (h : Reached resolve tier tokens operators operands) (hle : tier ≤ target) :
    Reached resolve target tokens operators operands := by
  obtain ⟨before, phrase, s, htokens, hwaiting, hbuilds⟩ := h
  exact ⟨before, phrase, s, htokens, hwaiting, hbuilds.mono hle⟩

/-- Applying the topmost operation joins its left side with the phrase behind it. -/
theorem Reached.join {o : Operation}
    (h : Reached resolve tier tokens (.operation o :: operators) operands)
    (hle : tier ≤ o.rightTier) (hreduce : reduceTop (.operation o) operands = .ok result) :
    Reached resolve o.tier tokens operators result ∧ Calm o.tier operators := by
  obtain ⟨_, phrase, s, rfl, hwaiting, hbuilds⟩ := h
  cases hwaiting with
  | @operation before left t _ _ s₀ _ hwaiting hleft hs hcalm =>
    obtain ⟨p, l, r, rest, hp, rfl, rfl⟩ := reduceTop_eq_ok hreduce
    cases hp
    refine ⟨⟨before, left ++ t :: phrase, s₀, ?_, hwaiting, ?_⟩, hcalm⟩
    · simp
    · exact .join hleft hs (hbuilds.mono hle)

/-- Applying the symbols up to the first that fails a condition leaves a phrase of any tier that
all of them belong to. -/
theorem Reached.reduceAll {condition : Symbol → Bool}
    (h : Reached resolve tier tokens operators operands) (hle : tier ≤ target)
    (hfits : ∀ o, operators.head? = some (.operation o) → tier ≤ o.rightTier)
    (htarget : ∀ o, condition (.operation o) = true → o.tier ≤ target)
    (hreduce : reduceAll (operators.takeWhile condition) operands = .ok result) :
    Reached resolve target tokens (operators.dropWhile condition) result := by
  induction operators generalizing tier operands with
  | nil =>
    cases hreduce
    exact h.mono hle
  | cons s operators ih =>
    by_cases hs : condition s = true
    · rw [List.takeWhile_cons_of_pos hs, reduceAll_cons] at hreduce
      rw [List.dropWhile_cons_of_pos hs]
      obtain ⟨reduced, htop, hrest⟩ := bind_eq_ok.1 hreduce
      obtain ⟨o, _, _, _, rfl, _, _⟩ := reduceTop_eq_ok htop
      obtain ⟨hjoined, hcalm⟩ := h.join (hfits o rfl) htop
      refine ih hjoined (htarget o hs) ?_ hrest
      intro p hp
      have hpo := hcalm _ hp o (Tier.le_refl _)
      rw [← Bool.not_eq_true, Symbol.reducesBefore_iff] at hpo
      exact Operation.tier_le_rightTier_iff.2 hpo
    · rw [List.takeWhile_cons_of_neg hs, reduceAll_nil] at hreduce
      rw [List.dropWhile_cons_of_neg hs]
      cases hreduce
      exact h.mono hle

namespace TwoStacks

variable {st next : TwoStacks α} {t : Token}

/-- One token keeps what has been reached: behind the topmost waiting symbol stand factors side
by side. -/
theorem reached_step (h : Reached resolve .factor tokens st.operators st.operands)
    (hstep : Step resolve st t next) :
    Reached resolve .factor (tokens ++ [t]) next.operators next.operands := by
  cases hstep with
  | operand hop ha =>
    obtain ⟨before, phrase, s, rfl, hwaiting, hbuilds⟩ := h
    exact ⟨before, phrase ++ [t], s, List.append_assoc .., hwaiting, .operand hbuilds hop ha⟩
  | opening hs =>
    obtain ⟨before, phrase, s, rfl, hwaiting, hbuilds⟩ := h
    refine ⟨before ++ (phrase ++ [t]), [], _, ?_, .opening hwaiting hbuilds hs, .nothing⟩
    simp
  | @operation o operands hs hreduce =>
    obtain ⟨before, phrase, s, rfl, hwaiting, hbuilds⟩ :=
      h.reduceAll (Tier.factor_le o.tier) (fun o _ => Tier.factor_le _)
        (fun p hp => Symbol.reducesBefore_iff.1 hp) hreduce
    have hcalm : Calm o.tier (st.operators.dropWhile (·.reducesBefore (.operation o))) := by
      refine calm_of_head fun s hs => ?_
      have hhead := List.head?_dropWhile_not (·.reducesBefore (Symbol.operation o)) st.operators
      rw [hs] at hhead
      exact hhead
    refine ⟨before ++ (phrase ++ [t]), [], _, ?_, .operation hwaiting hbuilds hs hcalm, .nothing⟩
    simp
  | @closing waiting operands hs hdrop hreduce =>
    obtain ⟨_, inner, s, rfl, hwaiting, hbuilds⟩ :=
      h.reduceAll (Tier.le_sum _) (fun o _ => Tier.factor_le _)
        (fun p _ => Tier.le_sum _) hreduce
    rw [hdrop] at hwaiting
    cases hwaiting with
    | @opening before phrase opening _ s₀ _ hwaiting hphrase hopening =>
      refine ⟨before, phrase ++ opening :: (inner ++ [t]), s₀, ?_, hwaiting, ?_⟩
      · simp
      · exact .brackets hphrase hopening hbuilds hs

/-- A list of tokens keeps what has been reached. -/
theorem reached_read (h : Reached resolve .factor before st.operators st.operands)
    (hread : read resolve st tokens = .ok next) :
    Reached resolve .factor (before ++ tokens) next.operators next.operands := by
  induction tokens generalizing before st with
  | nil =>
    cases hread
    rwa [List.append_nil]
  | cons t rest ih =>
    rw [read_cons] at hread
    obtain ⟨mid, hmid, hread⟩ := bind_eq_ok.1 hread
    rw [← List.singleton_append, ← List.append_assoc]
    exact ih (reached_step h (step_eq_ok_iff.1 hmid)) hread

end TwoStacks

/-- A list of tokens gives a tree exactly when it builds this tree from nothing. -/
theorem parseUnbounded_eq_ok_iff {e : Expr α} :
    parseUnbounded resolve tokens = .ok e ↔ Builds resolve .sum tokens [] [e] := by
  constructor
  · intro h
    have hne : tokens ≠ [] := by
      rintro rfl
      cases h
    rw [parseUnbounded_eq hne] at h
    obtain ⟨st, hread, hfinish⟩ := bind_eq_ok.1 h
    obtain ⟨hbrackets, hreduce⟩ := TwoStacks.finish_eq_ok_iff.1 hfinish
    have hstart : Reached resolve .factor [] [] [] := ⟨[], [], [], rfl, .nothing, .nothing⟩
    have hreached := TwoStacks.reached_read hstart hread
    have hnot : ∀ s ∈ st.operators, (!s.isBracket) = true := fun s hs => by simp [hbrackets s hs]
    have htake := List.takeWhile_eq_self_iff.2 hnot
    have hdrop := List.dropWhile_eq_nil_iff.2 hnot
    obtain ⟨_, phrase, s, htokens, hwaiting, hbuilds⟩ :=
      hreached.reduceAll (Tier.le_sum _) (fun o _ => Tier.factor_le _)
        (fun o _ => Tier.le_sum _) (by rw [htake]; exact hreduce)
    rw [hdrop] at hwaiting
    cases hwaiting
    rw [List.nil_append, List.nil_append] at htokens
    rw [htokens]
    exact hbuilds
  · intro h
    obtain ⟨pending, operands, hread, -, hreduce⟩ := h.read [] calm_nil
    have hne : tokens ≠ [] := fun hnil => by cases h.eq_of_nil hnil
    rw [parseUnbounded_eq hne]
    show TwoStacks.read resolve ⟨[], []⟩ tokens >>= TwoStacks.finish = _
    rw [hread, ok_bind, TwoStacks.finish_eq_ok_iff, List.append_nil]
    refine ⟨?_, hreduce⟩
    intro s hs
    obtain ⟨o, -, rfl⟩ := List.mem_map.1 hs
    rfl

end DeskCalculator
