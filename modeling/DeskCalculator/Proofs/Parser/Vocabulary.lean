import DeskCalculator.Proofs.Decimal.Numeral
import DeskCalculator.Proofs.Evaluation
import DeskCalculator.Proofs.Parser.Failures

/-!
# The words of a list that gives a tree

Whatever a list of tokens looks like and whoever made it: if it gives a tree, each of its tokens
is an operand with a value or one of the six symbols, so its text is a plain number, the word for
the previous result or a single character.

* `readable_of_parseUnbounded` — every token was understood.
* `length_eq_of_readable` — so there is nothing in the list but operands and symbols.
* `IsTerm`, `isTerm_of_readable` — what the texts of these tokens are.
* `unbroken_joinTokens` — put together they are a text without blanks.
-/

namespace DeskCalculator

variable {tokens : List Token}

/-! ## Every token was understood -/

section Readable

variable {α : Type} {resolve : List Char → Except Failure α} {t : Token}

theorem TwoStacks.readable_of_step {st next : TwoStacks α} (h : Step resolve st t next) :
    t.Readable resolve := by
  cases h with
  | operand hop ha => exact .inl ⟨hop, _, ha⟩
  | opening hs | operation hs _ | closing hs _ _ => exact .inr ⟨_, hs⟩

theorem TwoStacks.readable_of_read {st next : TwoStacks α} (h : read resolve st tokens = .ok next) :
    ∀ t ∈ tokens, t.Readable resolve := by
  induction tokens generalizing st with
  | nil => simp
  | cons t rest ih =>
    rw [read_cons] at h
    obtain ⟨mid, ht, h⟩ := bind_eq_ok.1 h
    exact List.forall_mem_cons.2 ⟨readable_of_step (step_eq_ok_iff.1 ht), ih h⟩

/-- A list that gives a tree has only tokens that can be read. -/
theorem readable_of_parseUnbounded {e : Expr α} (h : parseUnbounded resolve tokens = .ok e) :
    ∀ t ∈ tokens, t.Readable resolve := by
  rw [parseUnbounded_eq (ne_nil_of_parseUnbounded h)] at h
  obtain ⟨st, hread, -⟩ := bind_eq_ok.1 h
  exact TwoStacks.readable_of_read hread

/-- Tokens that can be read are operands and symbols. -/
theorem length_eq_of_readable (h : ∀ t ∈ tokens, t.Readable resolve) :
    tokens.length = (operandTokens tokens).length + (tokens.filterMap Token.symbol?).length := by
  induction tokens with
  | nil => rfl
  | cons t rest ih =>
    obtain ⟨ht, hrest⟩ := List.forall_mem_cons.1 h
    have hcount := ih hrest
    unfold operandTokens at hcount ⊢
    rcases ht with ⟨hop, -⟩ | ⟨s, hs⟩
    · rw [List.filter_cons_of_pos hop, List.filterMap_cons_none (Token.symbol_of_isOperand hop)]
      simp only [List.length_cons]
      omega
    · rw [List.filter_cons_of_neg (by simp [Token.isOperand_of_symbol hs]),
        List.filterMap_cons_some hs]
      simp only [List.length_cons]
      omega

end Readable

/-- A list that stands for a number gives a tree. -/
theorem parseUnbounded_of_evaluateTokens {limits : StackLimits} {last? : Option Float} {v : Float}
    (h : evaluateTokens limits last? tokens = .ok v) :
    ∃ e, parseUnbounded (resolve last?) tokens = .ok e := by
  rw [evaluateTokens_eq] at h
  obtain ⟨e, he, -⟩ := map_eq_ok.1 h
  exact ⟨e, parseUnbounded_of_parse he⟩

/-! ## The texts of the tokens -/

/-- A symbol is written with one of the six characters. -/
theorem Symbol.isSymbolChar_char (x : Symbol) : isSymbolChar x.char = true := by
  cases x with
  | operation o => cases o <;> rfl
  | opening | closing => rfl

/-- What a token that can be read has as its text. -/
inductive IsTerm (s : List Char) : Prop
  /-- Digits, with a fraction or without. -/
  | number : isNumber s = true → IsTerm s
  /-- The word for the previous result. -/
  | answer : isAnswerWord s = true → IsTerm s
  /-- One of the six symbols. -/
  | symbol (x : Symbol) : s = [x.char] → IsTerm s

/-- A text with a value is a number or the word for the previous result. -/
theorem isTerm_of_resolve {last? : Option Float} {s : List Char} {v : Float}
    (h : resolve last? s = .ok v) : IsTerm s := by
  unfold DeskCalculator.resolve at h
  split at h
  · rename_i hans
    exact .answer hans
  · split at h
    · rename_i hnumber
      exact .number hnumber
    · cases h

/-- The class of a token may be wrong, as long as its text can be read. -/
theorem isTerm_of_readable {last? : Option Float} {t : Token} (h : t.Readable (resolve last?)) :
    IsTerm t.text := by
  rcases h with ⟨-, v, hv⟩ | ⟨s, hs⟩
  · exact isTerm_of_resolve hv
  · exact .symbol s (Symbol.ofText?_eq_some_iff.1 (Token.ofText_of_symbol hs))

/-- The word for the previous result has only letters. -/
theorem isLetter_of_isAnswerWord {s : List Char} (h : isAnswerWord s = true) :
    ∀ c ∈ s, isLetter c = true := by
  have hlowered : lowered s = ['a', 'n', 's'] := by simpa [isAnswerWord, isKeyword] using h
  have hletters : ∀ d ∈ ['a', 'n', 's'], isLetter d = true := List.all_eq_true.1 rfl
  intro c hc
  have hmem : c.toLower ∈ lowered s := List.mem_map_of_mem hc
  rw [hlowered] at hmem
  rw [← isLetter_toLower]
  exact hletters _ hmem

/-- What can be read is not empty and has no blank in it. -/
theorem IsTerm.unbroken {s : List Char} (h : IsTerm s) :
    s ≠ [] ∧ ∀ c ∈ s, isBlank c = false := by
  cases h with
  | number h =>
    refine ⟨?_, not_isBlank_of_isNumber h⟩
    rintro rfl
    cases h
  | answer h =>
    constructor
    · rintro rfl
      cases h
    · intro c hc
      have hstart : isWordStart c = true := by
        rw [isWordStart, isLetter_of_isAnswerWord h c hc, Bool.true_or]
      exact (not_of_isWordStart hstart).1
  | symbol x h =>
    subst h
    refine ⟨List.cons_ne_nil _ _, List.forall_mem_singleton.2 ?_⟩
    exact (not_of_isSymbolChar x.isSymbolChar_char).1

/-- So are the texts of tokens that give a tree, put together. -/
theorem unbroken_joinTokens {last? : Option Float} {e : Expr Float}
    (h : parseUnbounded (resolve last?) tokens = .ok e) :
    joinTokens tokens ≠ [] ∧ ∀ c ∈ joinTokens tokens, isBlank c = false := by
  have hterms : ∀ t ∈ tokens, IsTerm t.text := fun t ht =>
    isTerm_of_readable (readable_of_parseUnbounded h t ht)
  constructor
  · intro hnil
    obtain ⟨t, rest, rfl⟩ := List.exists_cons_of_ne_nil (ne_nil_of_parseUnbounded h)
    exact (hterms t List.mem_cons_self).unbroken.1 (List.flatMap_eq_nil_iff.1 hnil t
      List.mem_cons_self)
  · intro c hc
    obtain ⟨t, ht, hc⟩ := List.mem_flatMap.1 hc
    exact (hterms t ht).unbroken.2 c hc

end DeskCalculator
