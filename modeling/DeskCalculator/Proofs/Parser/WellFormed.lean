import DeskCalculator.Proofs.Parser.Juxtaposition
import DeskCalculator.Proofs.Parser.Room
import DeskCalculator.Session
import Mathlib.Data.List.Chain

/-!
# Well-formed expressions

The lists of tokens that `Writes` describes, and what else gives a tree.

* `parse_of_writes` — a well-formed expression gives the tree that it writes.
* `FactorsApart` and `GapFree` — two ways to keep to the order of operands and operations, said
  of neighbouring tokens only: no factor follows a factor, and no operation or bracket lacks one.
* `Builds.length_le_of_apart` and `Builds.length_le_of_gapFree` — a list that keeps to the first
  never builds more than one tree, a list that keeps to the second never less; if it is one tree
  all the same, the list is well-formed.
* `accepted_writes_or_faulty_twice` — so a list that gives a tree is well-formed, or it breaks
  both rules at once.
-/

namespace DeskCalculator

/-! ## Well-formed expressions give their trees -/

section Completeness

variable {α : Type} {resolve : List Char → Except Failure α} {tier : Tier} {tokens : List Token}
  {e : Expr α}

/-- What writes a tree builds it on top of whatever there is. -/
theorem Writes.builds (h : Writes resolve tier tokens e) (s : List (Expr α)) :
    Builds resolve tier tokens s (e :: s) := by
  induction h generalizing s with
  | @operand t a hop ha =>
    show Builds resolve .factor ([] ++ [t]) s (.value a :: s)
    exact .operand .nothing hop ha
  | @brackets opening closing tokens e hopening hclosing _ ih =>
    show Builds resolve .factor ([] ++ opening :: (tokens ++ [closing])) s (e :: s)
    exact .brackets .nothing hopening (ih s) hclosing
  | product _ ih => exact .product (ih s)
  | sum _ ih => exact .sum (ih s)
  | join _ hs _ ihleft ihright => exact .join (ihleft s) hs (ihright _)

end Completeness

/-- A number is a factor and stands for its value. -/
theorem Writes.number (last? : Option Float) {t : Token} (hkind : t.kind = .number)
    (htext : isNumber t.text = true) :
    Writes (resolve last?) .factor [t] (.value (literalValue t.text)) :=
  .operand (by simp [Token.isOperand, hkind]) (resolve_of_isNumber last? htext)

/-- The word for the previous result is a factor and stands for it. -/
theorem Writes.answer (v : Float) {t : Token} (h : t.isAnswer = true) :
    Writes (resolve (some v)) .factor [t] (.value v) := by
  have hword : isAnswerWord t.text = true := by
    rw [Token.isAnswer, Bool.and_eq_true] at h
    exact h.2
  exact .operand (by simp [Token.isOperand, h]) (resolve_of_isAnswerWord hword)

/-- **A well-formed expression gives exactly the tree that it writes**, however long it is and
however deep its brackets are, as long as its tokens can be counted. -/
theorem parse_of_writes {last? : Option Float} {tokens : List Token} {e : Expr Float}
    (h : Writes (resolve last?) .sum tokens e) (hlength : tokens.length < largestCapacity - 32) :
    parseTokens {} last? tokens = .ok e := by
  rw [parseTokens, parse_default hlength, parseUnbounded_eq_ok_iff]
  exact h.builds []

/-- The theorem at `8 - 3 * ( ans + 2 ) - 4`. -/
theorem parse_of_writes_mixed_chain :
    let tokens : List Token :=
      [⟨.number, ['8'], 0⟩, ⟨.symbol, ['-'], 2⟩, ⟨.number, ['3'], 4⟩, ⟨.symbol, ['*'], 6⟩,
        ⟨.symbol, ['('], 8⟩, ⟨.identifier, ['a', 'n', 's'], 10⟩, ⟨.symbol, ['+'], 14⟩,
        ⟨.number, ['2'], 16⟩, ⟨.symbol, [')'], 18⟩, ⟨.symbol, ['-'], 20⟩, ⟨.number, ['4'], 22⟩]
    let e : Expr Float :=
      .node .subtraction
        (.node .subtraction (.value (literalValue ['8']))
          (.node .multiplication (.value (literalValue ['3']))
            (.node .sum (.value 5.0) (.value (literalValue ['2'])))))
        (.value (literalValue ['4']))
    Writes (resolve (some 5.0)) .sum tokens e ∧ tokens.length < largestCapacity - 32 ∧
      parseTokens {} (some 5.0) tokens = .ok e := by
  intro tokens e
  have hinner : Writes (resolve (some 5.0)) .sum
      [⟨.identifier, ['a', 'n', 's'], 10⟩, ⟨.symbol, ['+'], 14⟩, ⟨.number, ['2'], 16⟩]
      (.node .sum (.value 5.0) (.value (literalValue ['2']))) :=
    .join (o := .sum) (.sum (.product (.answer 5.0 rfl))) rfl (.product (.number _ rfl rfl))
  have hproduct : Writes (resolve (some 5.0)) .product
      [⟨.number, ['3'], 4⟩, ⟨.symbol, ['*'], 6⟩, ⟨.symbol, ['('], 8⟩,
        ⟨.identifier, ['a', 'n', 's'], 10⟩, ⟨.symbol, ['+'], 14⟩, ⟨.number, ['2'], 16⟩,
        ⟨.symbol, [')'], 18⟩] _ :=
    .join (o := .multiplication) (.product (.number _ rfl rfl)) rfl (.brackets rfl rfl hinner)
  have hleft : Writes (resolve (some 5.0)) .sum (tokens.take 9) _ :=
    .join (o := .subtraction) (.sum (.product (.number _ rfl rfl))) rfl hproduct
  have h : Writes (resolve (some 5.0)) .sum tokens e :=
    .join (o := .subtraction) hleft rfl (.product (.number _ rfl rfl))
  exact ⟨h, by decide, parse_of_writes h (by decide)⟩

/-! ## Two ways to keep the order of operands and operations -/

/-- A token with which a factor starts. -/
def Token.StartsFactor (t : Token) : Prop := t.isOperand = true ∨ t.symbol? = some .opening

/-- A token with which a factor ends. -/
def Token.EndsFactor (t : Token) : Prop := t.isOperand = true ∨ t.symbol? = some .closing

/-- A token that needs a factor right before it: an operation or a closing bracket. -/
def Token.NeedsBefore (t : Token) : Prop := ∃ s, t.symbol? = some s ∧ s ≠ .opening

/-- A token that needs a factor right behind it: an operation or an opening bracket. -/
def Token.NeedsAfter (t : Token) : Prop := ∃ s, t.symbol? = some s ∧ s ≠ .closing

theorem Token.StartsFactor.not_needsBefore {t : Token} (h : t.StartsFactor) : ¬ t.NeedsBefore := by
  rintro ⟨s, hs, hne⟩
  rcases h with hop | hopening
  · rw [Token.symbol_of_isOperand hop] at hs
    cases hs
  · rw [hopening] at hs
    cases hs
    exact hne rfl

theorem Token.EndsFactor.not_needsAfter {t : Token} (h : t.EndsFactor) : ¬ t.NeedsAfter := by
  rintro ⟨s, hs, hne⟩
  rcases h with hop | hclosing
  · rw [Token.symbol_of_isOperand hop] at hs
    cases hs
  · rw [hclosing] at hs
    cases hs
    exact hne rfl

/-- No factor comes right behind a factor. -/
def FactorsApart (tokens : List Token) : Prop :=
  tokens.IsChain fun t u => ¬ (t.EndsFactor ∧ u.StartsFactor)

/-- No factor is missing: there is something, and neither an operation lacks a side nor is there
nothing in a pair of brackets. -/
structure GapFree (tokens : List Token) : Prop where
  nonempty : tokens ≠ []
  first : ∀ t ∈ tokens.head?, ¬ t.NeedsBefore
  last : ∀ t ∈ tokens.getLast?, ¬ t.NeedsAfter
  between : tokens.IsChain fun t u => ¬ (t.NeedsAfter ∧ u.NeedsBefore)

/-! ## What keeps to one of them -/

section Order

variable {α : Type} {resolve : List Char → Except Failure α} {tier : Tier}
  {tokens left right : List Token} {t : Token} {e : Expr α} {s s' : List (Expr α)}
  {R : Token → Token → Prop}

/-- A list without gaps has a factor on both sides of an operation. -/
theorem GapFree.of_operation {o : Operation} (h : GapFree (left ++ t :: right))
    (ht : t.symbol? = some (.operation o)) : GapFree left ∧ GapFree right := by
  obtain ⟨hleft, hrest, hjoin⟩ := List.isChain_append.1 h.between
  have hbefore : t.NeedsBefore := ⟨_, ht, by simp⟩
  have hafter : t.NeedsAfter := ⟨_, ht, by simp⟩
  have hleftne : left ≠ [] := by
    rintro rfl
    exact h.first t rfl hbefore
  have hrightne : right ≠ [] := by
    rintro rfl
    exact h.last t (by simp) hafter
  obtain ⟨hnext, hright⟩ := List.isChain_cons.1 hrest
  refine ⟨⟨hleftne, fun u hu => h.first u ?_, fun u hu => ?_, hleft⟩,
    ⟨hrightne, fun u hu => ?_, fun u hu => h.last u ?_, hright⟩⟩
  · rwa [List.head?_append_of_ne_nil _ hleftne]
  · exact fun hneeds => hjoin u hu t rfl ⟨hneeds, hbefore⟩
  · exact fun hneeds => hnext u hu ⟨hafter, hneeds⟩
  · rwa [List.getLast?_append_of_ne_nil _ (List.cons_ne_nil t right),
      List.getLast?_cons_of_ne_nil hrightne]

/-- A list without gaps has none up to where a factor ends. -/
theorem GapFree.of_factor (h : GapFree (left ++ right)) (hne : left ≠ [])
    (hlast : ∀ t ∈ left.getLast?, t.EndsFactor) : GapFree left := by
  refine ⟨hne, fun u hu => h.first u ?_, fun u hu => (hlast u hu).not_needsAfter,
    h.between.left_of_append⟩
  rwa [List.head?_append_of_ne_nil _ hne]

/-- A list without gaps has none in its brackets. -/
theorem GapFree.of_brackets {opening closing : Token}
    (h : GapFree (left ++ opening :: (right ++ [closing])))
    (hopening : opening.symbol? = some .opening) (hclosing : closing.symbol? = some .closing) :
    GapFree right := by
  have hafter : opening.NeedsAfter := ⟨_, hopening, by simp⟩
  have hbefore : closing.NeedsBefore := ⟨_, hclosing, by simp⟩
  obtain ⟨hfirst, hinner⟩ := List.isChain_cons.1 h.between.right_of_append
  obtain ⟨hright, -, hlast⟩ := List.isChain_append.1 hinner
  have hne : right ≠ [] := by
    rintro rfl
    exact hfirst closing rfl ⟨hafter, hbefore⟩
  refine ⟨hne, fun u hu hneeds => hfirst u ?_ ⟨hafter, hneeds⟩,
    fun u hu hneeds => hlast u hu closing rfl ⟨hneeds, hbefore⟩, hright⟩
  rwa [List.head?_append_of_ne_nil _ hne]

/-- Factors side by side end with the end of a factor. -/
theorem Builds.endsFactor (h : Builds resolve tier tokens s s') (htier : tier = .factor) :
    ∀ t ∈ tokens.getLast?, t.EndsFactor := by
  intro u hu
  cases h with
  | nothing => cases hu
  | operand _ hop _ =>
    rw [List.getLast?_concat] at hu
    cases hu
    exact .inl hop
  | @brackets before inner opening closing _ _ _ _ _ _ hclosing =>
    rw [← List.cons_append, ← List.append_assoc, List.getLast?_concat] at hu
    cases hu
    exact .inr hclosing
  | product | sum => cases htier
  | @join _ _ _ o =>
    refine absurd ?_ o.not_tier_le_factor
    rw [htier]
    exact Tier.le_refl _

/-- Where no factor follows a factor, a factor stands alone. -/
theorem FactorsApart.eq_nil_of_factor (h : FactorsApart (left ++ t :: right))
    (hbuilds : Builds resolve .factor left s s') (ht : t.StartsFactor) : left = [] := by
  rcases List.eq_nil_or_concat left with hnil | ⟨before, u, rfl⟩
  · exact hnil
  · rw [List.concat_eq_append] at h hbuilds
    have hu : u.EndsFactor := hbuilds.endsFactor rfl u (by simp)
    obtain ⟨-, -, hjoin⟩ := List.isChain_append.1 h
    exact absurd ⟨hu, ht⟩ (hjoin u (by simp) t rfl)

/-- A list builds one tree more, and this is the tree that it writes. -/
def BuildsOne (resolve : List Char → Except Failure α) (tier : Tier) (tokens : List Token)
    (s s' : List (Expr α)) : Prop :=
  ∃ e, s' = e :: s ∧ Writes resolve tier tokens e

theorem BuildsOne.brackets {opening closing : Token} (h : BuildsOne resolve .sum tokens s s')
    (hopening : opening.symbol? = some .opening) (hclosing : closing.symbol? = some .closing) :
    BuildsOne resolve .factor (opening :: (tokens ++ [closing])) s s' := by
  obtain ⟨e, rfl, he⟩ := h
  exact ⟨e, rfl, .brackets hopening hclosing he⟩

theorem BuildsOne.product (h : BuildsOne resolve .factor tokens s s') :
    BuildsOne resolve .product tokens s s' := by
  obtain ⟨e, rfl, he⟩ := h
  exact ⟨e, rfl, .product he⟩

theorem BuildsOne.sum (h : BuildsOne resolve .product tokens s s') :
    BuildsOne resolve .sum tokens s s' := by
  obtain ⟨e, rfl, he⟩ := h
  exact ⟨e, rfl, .sum he⟩

theorem BuildsOne.join {o : Operation} {l r : Expr α} {rest : List (Expr α)}
    (hleft : BuildsOne resolve o.tier left s s') (ht : t.symbol? = some (.operation o))
    (hright : BuildsOne resolve o.rightTier right s' (r :: l :: rest)) :
    BuildsOne resolve o.tier (left ++ t :: right) s (.node o l r :: rest) := by
  obtain ⟨_, rfl, hl⟩ := hleft
  obtain ⟨_, heq, hr⟩ := hright
  cases heq
  exact ⟨_, rfl, .join hl ht hr⟩

/-- A list in which no factor follows a factor builds at most one tree more, and if it builds one
then it writes it. -/
theorem Builds.length_le_of_apart (h : Builds resolve tier tokens s s')
    (hapart : FactorsApart tokens) :
    s'.length ≤ s.length + 1 ∧
      (s'.length = s.length + 1 → BuildsOne resolve tier tokens s s') := by
  induction h with
  | nothing => exact ⟨Nat.le_succ _, fun heq => by omega⟩
  | @operand before t a s s' hbefore hop ha _ =>
    obtain rfl := hapart.eq_nil_of_factor hbefore (.inl hop)
    obtain rfl := hbefore.eq_of_nil rfl
    exact ⟨Nat.le_refl _, fun _ => ⟨_, rfl, .operand hop ha⟩⟩
  | @brackets before inner opening closing s s' s'' hbefore hopening _ hclosing _ ih =>
    obtain rfl := hapart.eq_nil_of_factor hbefore (.inr hopening)
    obtain rfl := hbefore.eq_of_nil rfl
    obtain ⟨hle, hone⟩ := ih hapart.tail.left_of_append
    exact ⟨hle, fun heq => (hone heq).brackets hopening hclosing⟩
  | product _ ih =>
    obtain ⟨hle, hone⟩ := ih hapart
    exact ⟨hle, fun heq => (hone heq).product⟩
  | sum _ ih =>
    obtain ⟨hle, hone⟩ := ih hapart
    exact ⟨hle, fun heq => (hone heq).sum⟩
  | @join left right t o l r s s' rest _ ht _ ihleft ihright =>
    obtain ⟨hlle, hlone⟩ := ihleft hapart.left_of_append
    obtain ⟨hrle, hrone⟩ := ihright hapart.right_of_append.tail
    simp only [List.length_cons] at hrle hrone ⊢
    refine ⟨by omega, fun heq => ?_⟩
    -- one tree more in all is one more on each side
    have hleft := hlone (by omega)
    have hright := hrone (by omega)
    exact hleft.join ht hright

/-- A list without gaps builds at least one tree more, and if it builds no second then it writes
the one. -/
theorem Builds.length_le_of_gapFree (h : Builds resolve tier tokens s s')
    (hfree : GapFree tokens) :
    s.length + 1 ≤ s'.length ∧
      (s'.length = s.length + 1 → BuildsOne resolve tier tokens s s') := by
  induction h with
  | nothing => exact absurd rfl hfree.nonempty
  | @operand before t a s s' hbefore hop ha ih =>
    by_cases hnil : before = []
    · obtain rfl := hbefore.eq_of_nil hnil
      subst hnil
      exact ⟨Nat.le_refl _, fun _ => ⟨_, rfl, .operand hop ha⟩⟩
    · obtain ⟨hle, -⟩ := ih (hfree.of_factor hnil (hbefore.endsFactor rfl))
      rw [List.length_cons]
      exact ⟨by omega, fun heq => by omega⟩
  | @brackets before inner opening closing s s' s'' hbefore hopening _ hclosing ih ihinner =>
    obtain ⟨hinner, hone⟩ := ihinner (hfree.of_brackets hopening hclosing)
    by_cases hnil : before = []
    · obtain rfl := hbefore.eq_of_nil hnil
      subst hnil
      exact ⟨hinner, fun heq => (hone heq).brackets hopening hclosing⟩
    · obtain ⟨hle, -⟩ := ih (hfree.of_factor hnil (hbefore.endsFactor rfl))
      exact ⟨by omega, fun heq => by omega⟩
  | product _ ih =>
    obtain ⟨hle, hone⟩ := ih hfree
    exact ⟨hle, fun heq => (hone heq).product⟩
  | sum _ ih =>
    obtain ⟨hle, hone⟩ := ih hfree
    exact ⟨hle, fun heq => (hone heq).sum⟩
  | @join left right t o l r s s' rest _ ht _ ihleft ihright =>
    obtain ⟨hleftfree, hrightfree⟩ := hfree.of_operation ht
    obtain ⟨hlle, hlone⟩ := ihleft hleftfree
    obtain ⟨hrle, hrone⟩ := ihright hrightfree
    simp only [List.length_cons] at hrle hrone ⊢
    refine ⟨by omega, fun heq => ?_⟩
    have hleft := hlone (by omega)
    have hright := hrone (by omega)
    exact hleft.join ht hright

/-! ## Well-formed expressions keep to both -/

/-- A list that writes a tree starts and ends as a factor does, and each two neighbours of it are
related if every two are that fit together. -/
theorem Writes.isChain (h : Writes resolve tier tokens e)
    (hafter : ∀ t u, t.NeedsAfter → u.StartsFactor → R t u)
    (hbefore : ∀ t u, t.EndsFactor → u.NeedsBefore → R t u) :
    (∀ t ∈ tokens.head?, t.StartsFactor) ∧ (∀ t ∈ tokens.getLast?, t.EndsFactor) ∧
      tokens.IsChain R := by
  induction h with
  | operand hop _ =>
    refine ⟨fun u hu => ?_, fun u hu => ?_, .singleton _⟩
    · cases hu
      exact .inl hop
    · cases hu
      exact .inl hop
  | @brackets opening closing tokens e hopening hclosing hinner ih =>
    obtain ⟨hfirst, hlast, hchain⟩ := ih
    refine ⟨fun u hu => ?_, fun u hu => ?_, ?_⟩
    · cases hu
      exact .inr hopening
    · rw [← List.cons_append, List.getLast?_concat] at hu
      cases hu
      exact .inr hclosing
    · have hcloses : (tokens ++ [closing]).IsChain R := by
        refine hchain.append (.singleton _) fun t ht u hu => ?_
        cases hu
        exact hbefore _ _ (hlast t ht) ⟨_, hclosing, by simp⟩
      refine List.isChain_cons.2 ⟨fun u hu => ?_, hcloses⟩
      rw [List.head?_append_of_ne_nil _ hinner.ne_nil] at hu
      exact hafter _ _ ⟨_, hopening, by simp⟩ (hfirst u hu)
  | product _ ih | sum _ ih => exact ih
  | @join left right t o l r hl ht hr ihleft ihright =>
    obtain ⟨hlfirst, hllast, hlchain⟩ := ihleft
    obtain ⟨hrfirst, hrlast, hrchain⟩ := ihright
    refine ⟨fun u hu => hlfirst u ?_, fun u hu => hrlast u ?_, ?_⟩
    · rwa [List.head?_append_of_ne_nil _ hl.ne_nil] at hu
    · rwa [List.getLast?_append_of_ne_nil _ (List.cons_ne_nil t right),
        List.getLast?_cons_of_ne_nil hr.ne_nil] at hu
    · refine hlchain.append (List.isChain_cons.2 ⟨fun u hu => ?_, hrchain⟩) fun u hu v hv => ?_
      · exact hafter _ _ ⟨_, ht, by simp⟩ (hrfirst u hu)
      · cases hv
        exact hbefore _ _ (hllast u hu) ⟨_, ht, by simp⟩

theorem Writes.factorsApart (h : Writes resolve tier tokens e) : FactorsApart tokens :=
  (h.isChain (fun _ _ ht _ hboth => hboth.1.not_needsAfter ht)
    (fun _ _ _ hu hboth => hboth.2.not_needsBefore hu)).2.2

theorem Writes.gapFree (h : Writes resolve tier tokens e) : GapFree tokens := by
  obtain ⟨hfirst, hlast, hchain⟩ :=
    h.isChain (R := fun t u => ¬ (t.NeedsAfter ∧ u.NeedsBefore))
      (fun _ _ _ hu hboth => hu.not_needsBefore hboth.2)
      (fun _ _ ht _ hboth => ht.not_needsAfter hboth.1)
  exact ⟨h.ne_nil, fun u hu => (hfirst u hu).not_needsBefore,
    fun u hu => (hlast u hu).not_needsAfter, hchain⟩

/-- What builds one tree alone writes it, or it breaks both rules. -/
theorem Builds.writes_or (h : Builds resolve tier tokens [] [e]) :
    Writes resolve tier tokens e ∨ ¬ FactorsApart tokens ∧ ¬ GapFree tokens := by
  have hwrites : BuildsOne resolve tier tokens [] [e] → Writes resolve tier tokens e := by
    rintro ⟨_, heq, he⟩
    cases heq
    exact he
  by_cases hapart : FactorsApart tokens
  · exact .inl (hwrites ((h.length_le_of_apart hapart).2 rfl))
  · by_cases hfree : GapFree tokens
    · exact .inl (hwrites ((h.length_le_of_gapFree hfree).2 rfl))
    · exact .inr ⟨hapart, hfree⟩

end Order

/-- **What is accepted.**  Under any limits a list that gives a tree is a well-formed expression
that writes this tree, or it breaks both rules at once: somewhere a factor follows a factor, and
somewhere one is missing.  So a list that breaks only one of them is rejected.  Either way the
list builds its tree, and with the usual stacks nothing else is asked of it. -/
theorem accepted_writes_or_faulty_twice (limits : StackLimits) (last? : Option Float)
    (tokens : List Token) :
    (∀ e, parseTokens limits last? tokens = .ok e →
      Builds (resolve last?) .sum tokens [] [e] ∧
        (Writes (resolve last?) .sum tokens e ∨ ¬ FactorsApart tokens ∧ ¬ GapFree tokens)) ∧
      ((FactorsApart tokens ↔ ¬ GapFree tokens) →
        ∃ failure, parseTokens limits last? tokens = .error failure) ∧
      (tokens.length < largestCapacity - 32 →
        ∀ e, Builds (resolve last?) .sum tokens [] [e] → parseTokens {} last? tokens = .ok e) := by
  have hbuilds : ∀ e, parseTokens limits last? tokens = .ok e →
      Builds (resolve last?) .sum tokens [] [e] :=
    fun e h => parseUnbounded_eq_ok_iff.1 (parseUnbounded_of_parse h)
  refine ⟨fun e h => ⟨hbuilds e h, (hbuilds e h).writes_or⟩, fun honce => ?_, fun hlength e h => ?_⟩
  · cases hparse : parseTokens limits last? tokens with
    | error failure => exact ⟨failure, rfl⟩
    | ok e =>
      rcases (hbuilds e hparse).writes_or with hwrites | ⟨hapart, hfree⟩
      · exact absurd hwrites.gapFree (honce.1 hwrites.factorsApart)
      · exact absurd (honce.2 hfree) hapart
  · rw [parseTokens, parse_default hlength]
    exact parseUnbounded_eq_ok_iff.2 h

/-- The theorem at `1 2 +` and at `1 2`: the first breaks both rules and gives a tree, the second
breaks one and does not. -/
theorem accepted_writes_or_faulty_twice_postfix :
    let one : Token := ⟨.number, ['1'], 0⟩
    let two : Token := ⟨.number, ['2'], 2⟩
    let plus : Token := ⟨.symbol, ['+'], 4⟩
    let e : Expr Float := .node .sum (.value (literalValue ['1'])) (.value (literalValue ['2']))
    (Writes (resolve none) .sum [one, two, plus] e ∨
      ¬ FactorsApart [one, two, plus] ∧ ¬ GapFree [one, two, plus]) ∧
      (FactorsApart [one, two] ↔ ¬ GapFree [one, two]) ∧
      ∃ failure, parseTokens {} none [one, two] = .error failure := by
  intro one two plus e
  have hone : one.EndsFactor := .inl rfl
  have htwo : two.StartsFactor := .inl rfl
  have hapart : ¬ FactorsApart [one, two] := fun h => h.rel ⟨hone, htwo⟩
  have hfree : GapFree [one, two] := by
    refine ⟨by simp, fun t ht => ?_, fun t ht => ?_, ?_⟩
    · cases ht
      exact Token.StartsFactor.not_needsBefore (.inl rfl)
    · cases ht
      exact Token.EndsFactor.not_needsAfter (.inl rfl)
    · exact .cons_cons (fun h => htwo.not_needsBefore h.2) (.singleton _)
  have honce : FactorsApart [one, two] ↔ ¬ GapFree [one, two] :=
    ⟨fun h => absurd h hapart, fun h => absurd hfree h⟩
  exact ⟨((accepted_writes_or_faulty_twice {} none [one, two, plus]).1 e rfl).2, honce,
    (accepted_writes_or_faulty_twice {} none [one, two]).2.1 honce⟩

/-- Not only well-formed expressions give trees: `1 2 +` does. -/
theorem accepted_not_written :
    let tokens : List Token := [⟨.number, ['1'], 0⟩, ⟨.number, ['2'], 2⟩, ⟨.symbol, ['+'], 4⟩]
    parseTokens {} none tokens =
        .ok (.node .sum (.value (literalValue ['1'])) (.value (literalValue ['2']))) ∧
      ∀ e, ¬ Writes (resolve none) .sum tokens e := by
  intro tokens
  refine ⟨rfl, fun e h => ?_⟩
  exact h.gapFree.last ⟨.symbol, ['+'], 4⟩ rfl ⟨.operation .sum, rfl, by simp⟩

end DeskCalculator
