import DeskCalculator.Proofs.Decimal.FullText
import DeskCalculator.Proofs.Parser.WellFormed

/-!
# The text of a tree is read back

The text of a tree has brackets around every operation, so nothing is left to the tiers of the
operations, and a blank or a bracket behind every number, so nothing runs into it.

* `Scans.symbol` and `Scans.number` — the pieces that the text is made of.
* `Expr.scans_render` — the tokens of the text, wherever it stands in a line, write the tree.
* `parseLine_render` — so the text of a tree gives the tree, by induction on it.
-/

namespace DeskCalculator

variable {α : Type}

/-! ## Pieces of a line -/

section Pieces

variable {c : Char} {w rest : List Char}

/-- A symbol is read, whatever follows. -/
theorem Scans.symbol (h : isSymbolChar c = true) (column : Nat) (rest : List Char) :
    Scans column (c :: rest) [⟨.symbol, [c], column⟩] (column + 1) rest :=
  .single (t := ⟨.symbol, [c], column⟩) h trivial

/-- A text that continues no number. -/
def EndsNumber (rest : List Char) : Prop := ∀ c ∈ rest.head?, isDigit c = false ∧ c ≠ '.'

theorem EndsNumber.nil : EndsNumber [] := by
  intro c hc
  cases hc

theorem EndsNumber.cons (h : isDigit c = false) (hpoint : c ≠ '.') (rest : List Char) :
    EndsNumber (c :: rest) := by
  intro d hd
  cases hd
  exact ⟨h, hpoint⟩

/-- A number is read if what follows does not continue it. -/
theorem Scans.number (h : isNumber w = true) (hrest : EndsNumber rest) (column : Nat) :
    Scans column (w ++ rest) [⟨.number, w, column⟩] (column + w.length) rest :=
  .single (t := ⟨.number, w, column⟩) h
    ⟨fun c hc => (hrest c hc).1, fun _ hpoint => absurd rfl (hrest _ hpoint).2⟩

end Pieces

theorem Operation.isSymbolChar_symbol (o : Operation) : isSymbolChar o.symbol = true := by
  cases o <;> rfl

theorem Operation.symbol?_symbol (o : Operation) (column : Nat) :
    (⟨.symbol, [o.symbol], column⟩ : Token).symbol? = some (.operation o) := by
  cases o <;> rfl

/-! ## The tokens of a tree -/

section Tokens

variable {resolve : List Char → Except Failure α} {tokens : List Token} {e : Expr α}

/-- A factor can stand wherever a sum or a product can. -/
theorem Writes.of_factor (h : Writes resolve .factor tokens e) (tier : Tier) :
    Writes resolve tier tokens e := by
  cases tier with
  | factor => exact h
  | product => exact .product h
  | sum => exact .sum (.product h)

/-- An operation is a sum, whatever its tier. -/
theorem Writes.sum_of_tier {o : Operation} (h : Writes resolve o.tier tokens e) :
    Writes resolve .sum tokens e := by
  cases o with
  | sum | subtraction => exact h
  | multiplication | division => exact .sum h

/-- An operation on two factors in brackets is a factor. -/
theorem Writes.bracketed {left right : List Token} {opening t closing : Token} {o : Operation}
    {l r : Expr α} (hl : Writes resolve .factor left l) (hr : Writes resolve .factor right r)
    (hopening : opening.symbol? = some .opening) (ht : t.symbol? = some (.operation o))
    (hclosing : closing.symbol? = some .closing) :
    Writes resolve .factor (opening :: (left ++ t :: right ++ [closing])) (.node o l r) :=
  .brackets hopening hclosing (Writes.join (hl.of_factor _) ht (hr.of_factor _)).sum_of_tier

/-- The tokens of the text of a tree, wherever it stands in a line, write the tree. -/
theorem Expr.scans_render {number : α → List Char}
    (hleaves : ∀ a ∈ e.leaves, isNumber (number a) = true ∧ resolve (number a) = .ok a)
    (column : Nat) {rest : List Char} (hrest : EndsNumber rest) :
    ∃ tokens column', Scans column (e.render number ++ rest) tokens column' rest ∧
      Writes resolve .factor tokens e := by
  induction e generalizing column rest with
  | value a =>
    obtain ⟨hnumber, hresolve⟩ := hleaves a (by simp [leaves])
    exact ⟨_, _, .number hnumber hrest column, .operand rfl hresolve⟩
  | node o l r ihl ihr =>
    have hblank : isBlank ' ' = true := by decide
    -- a blank follows the left tree and a bracket the right one, and neither continues a number
    obtain ⟨left, middle, hleft, hl⟩ := ihl (fun a ha => hleaves a (by simp [leaves, ha]))
      (column + 1) (.cons (c := ' ') rfl (by decide)
        (o.symbol :: ' ' :: (r.render number ++ ')' :: rest)))
    obtain ⟨right, last, hright, hr⟩ := ihr (fun a ha => hleaves a (by simp [leaves, ha]))
      (middle + 3) (.cons (c := ')') rfl (by decide) rest)
    -- piece by piece, from the last to the first
    have hend := hright.trans (.symbol (c := ')') rfl last rest)
    have hmiddle := (Scans.symbol o.isSymbolChar_symbol (middle + 1) _).trans (.blank hblank hend)
    have hscans := (Scans.symbol (c := '(') rfl column _).trans
      (hleft.trans (.blank hblank hmiddle))
    have hopening : (⟨.symbol, ['('], column⟩ : Token).symbol? = some .opening := rfl
    have hclosing : (⟨.symbol, [')'], last⟩ : Token).symbol? = some .closing := rfl
    refine ⟨_, last + 1, ?_,
      hl.bracketed hr hopening (o.symbol?_symbol (middle + 1)) hclosing⟩
    simpa [render, List.append_assoc] using hscans

end Tokens

/-! ## The round trip -/

/-- The text has digits on both sides of a point. -/
def IsPointNumber (s : List Char) : Prop :=
  ∃ whole fraction, s = whole ++ '.' :: fraction ∧ whole ≠ [] ∧ fraction ≠ [] ∧
    (whole ++ fraction).all isDigit = true

theorem IsPointNumber.isNumber {s : List Char} (h : IsPointNumber s) : isNumber s = true := by
  obtain ⟨whole, fraction, rfl, hwhole, hfraction, hall⟩ := h
  have hdigits : ∀ c ∈ whole ++ fraction, isDigit c = true := List.all_eq_true.1 hall
  refine isNumber_iff.2 ⟨whole, _, rfl, hwhole, fun c hc => hdigits c (by simp [hc]),
    .inr ⟨fraction, rfl, hfraction, fun c hc => hdigits c (by simp [hc])⟩⟩

/-- The text of a plain number stands for it as an operand, since it does for the general reader. -/
theorem resolve_fullText {v : Float} (hplain : IsPointNumber (fullText v))
    (last? : Option Float) : resolve last? (fullText v) = .ok v := by
  have hreads := readFloat?_fullText v
  rw [readFloat?_of_isNumber hplain.isNumber] at hreads
  rw [resolve_of_isNumber last? hplain.isNumber, Option.some.inj hreads]

/-- **The text of a tree gives the tree**, of whatever shape and size it is and whatever the
previous result is: the same operations at the same places and the same doubles at the leaves, as
long as each of these is written with digits and a point. -/
theorem parseLine_render {e : Expr Float} (hplain : ∀ v ∈ e.leaves, IsPointNumber (fullText v))
    (hlength : (e.render fullText).length < largestCapacity - 32) (last? : Option Float) :
    parseLine {} last? (e.render fullText) = .ok e := by
  have hleaves : ∀ v ∈ e.leaves,
      isNumber (fullText v) = true ∧ resolve last? (fullText v) = .ok v := fun v hv =>
    ⟨(hplain v hv).isNumber, resolve_fullText (hplain v hv) last?⟩
  obtain ⟨tokens, column, hscans, hwrites⟩ := Expr.scans_render hleaves 0 .nil
  rw [List.append_nil] at hscans
  have htokens : tokenize (e.render fullText) = .ok tokens :=
    tokenize_eq_ok_iff.2 ⟨column, hscans⟩
  have hroom : tokens.length < largestCapacity - 32 :=
    Nat.lt_of_le_of_lt (length_le_of_tokenize htokens) hlength
  have hparse : parseTokens {} last? tokens = .ok e := by
    rw [parseTokens, parse_default hroom, parseUnbounded_eq_ok_iff]
    exact (hwrites.of_factor .sum).builds []
  rw [parseLine, tokensOf, htokens]
  exact hparse

/-- The theorem at `(2.5 - ((0.75 * 3.0) / 10.25))`, whose brackets lean both ways. -/
theorem parseLine_render_nested :
    let e : Expr Float :=
      .node .subtraction (.value 2.5)
        (.node .division (.node .multiplication (.value 0.75) (.value 3.0)) (.value 10.25))
    (∀ v ∈ e.leaves, IsPointNumber (fullText v)) ∧
      e.render fullText = "(2.5 - ((0.75 * 3.0) / 10.25))".toList ∧
      (e.render fullText).length < largestCapacity - 32 ∧
      parseLine {} none (e.render fullText) = .ok e := by
  intro e
  have hplain : ∀ v ∈ e.leaves, IsPointNumber (fullText v) := by
    simp only [e, Expr.leaves, List.forall_mem_append, List.forall_mem_singleton]
    exact ⟨⟨['2'], ['5'], rfl, by simp, by simp, rfl⟩,
      ⟨⟨['0'], ['7', '5'], rfl, by simp, by simp, rfl⟩, ⟨['3'], ['0'], rfl, by simp, by simp, rfl⟩⟩,
      ⟨['1', '0'], ['2', '5'], rfl, by simp, by simp, rfl⟩⟩
  have htext : e.render fullText = "(2.5 - ((0.75 * 3.0) / 10.25))".toList := rfl
  have hlength : (e.render fullText).length < largestCapacity - 32 := by
    rw [htext]
    decide
  exact ⟨hplain, htext, hlength, parseLine_render hplain hlength none⟩

end DeskCalculator
