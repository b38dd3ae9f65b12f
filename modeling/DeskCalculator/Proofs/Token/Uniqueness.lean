import DeskCalculator.Proofs.Token.Lexemes

/-!
# The tokens of a line are its only segmentation

A segmentation of a line says of each token where it stands and that it could not be longer, and
of the rest that it is blank.  That leaves no choice: from any column on, either a token begins
there, and then it is the longest lexeme, or a blank stands there.

* `IsSegmentationFrom` — a segmentation of what stands from a column on.
* `Scans.isSegmentationFrom` — what is read to the end of a line cuts it, by induction on the
  reading.
* `IsSegmentationFrom.exists_scans` — what cuts a line is read, by induction on what is left of it.
* `tokenize_eq_ok_iff_isSegmentation` — so the tokenizer finds a segmentation if there is one.
* `Lexeme.length_of_munch?` — each turn of the reading takes off something, and no more than there
  is.
* `tokens_only_segmentation` — all of this.
-/

namespace DeskCalculator

variable {chars s : List Char} {column : Nat} {t : Token} {tokens : List Token}

/-! ## Cutting a line from a column on -/

/-- A list of tokens cuts what stands in a line from a column on. -/
structure IsSegmentationFrom (chars : List Char) (column : Nat) (tokens : List Token) : Prop where
  /-- No token begins earlier. -/
  from_column : ∀ t ∈ tokens, column ≤ t.position
  /-- Each token ends before the next one begins. -/
  ordered : tokens.Pairwise fun t u => t.stop ≤ u.position
  /-- The text of a token is what the line has at its column. -/
  sliced : ∀ t ∈ tokens, (chars.drop t.position).take t.text.length = t.text
  /-- The text of a token is one of its class. -/
  classed : ∀ t ∈ tokens, t.kind.accepts t.text = true
  /-- What no token covers is blank. -/
  blank : ∀ i c, column ≤ i → chars[i]? = some c → (∀ t ∈ tokens, ¬ t.covers i) → isBlank c = true
  /-- No token could be longer. -/
  maximal : ∀ t ∈ tokens, IsMaximal t (chars.drop t.stop)

theorem isSegmentation_iff_from :
    IsSegmentation chars tokens ↔ IsSegmentationFrom chars 0 tokens := by
  constructor
  · intro h
    exact ⟨fun t _ => Nat.zero_le _, h.ordered, h.sliced, h.classed, fun i c _ => h.blank i c,
      h.maximal⟩
  · intro h
    exact ⟨h.ordered, h.sliced, h.classed, fun i c => h.blank i c (Nat.zero_le _), h.maximal⟩

theorem Token.position_lt_stop (h : t.kind.accepts t.text = true) : t.position < t.stop :=
  Nat.lt_add_of_pos_right (List.length_pos_iff.2 (text_ne_nil_of_accepts h))

/-- The text of a token is in front of what follows it. -/
theorem drop_position_eq (h : (chars.drop t.position).take t.text.length = t.text) :
    chars.drop t.position = t.text ++ chars.drop t.stop := by
  have hsplit := List.take_append_drop t.text.length (chars.drop t.position)
  rw [h, List.drop_drop] at hsplit
  exact hsplit.symm

namespace IsSegmentationFrom

/-- A segmentation from the end on has no tokens. -/
theorem nil (h : chars.length ≤ column) : IsSegmentationFrom chars column [] where
  from_column := by simp
  ordered := .nil
  sliced := by simp
  classed := by simp
  blank i c hi hc _ := by
    rw [List.getElem?_eq_none (h.trans hi)] at hc
    cases hc
  maximal := by simp

/-- A blank stands before the first token. -/
theorem cons_blank {c : Char} (hc : chars[column]? = some c) (hblank : isBlank c = true)
    (h : IsSegmentationFrom chars (column + 1) tokens) :
    IsSegmentationFrom chars column tokens where
  from_column t ht := Nat.le_of_succ_le (h.from_column t ht)
  ordered := h.ordered
  sliced := h.sliced
  classed := h.classed
  blank i d hi hd hcovers := by
    rcases Nat.eq_or_lt_of_le hi with rfl | hlt
    · rw [hc] at hd
      cases hd
      exact hblank
    · exact h.blank i d hlt hd hcovers
  maximal := h.maximal

/-- A token stands before the others. -/
theorem cons_token (hsplit : chars.drop t.position = t.text ++ chars.drop t.stop)
    (haccepts : t.kind.accepts t.text = true) (hmax : IsMaximal t (chars.drop t.stop))
    (h : IsSegmentationFrom chars t.stop tokens) :
    IsSegmentationFrom chars t.position (t :: tokens) where
  from_column := by
    refine List.forall_mem_cons.2 ⟨Nat.le_refl _, fun u hu => ?_⟩
    exact (Token.position_lt_stop haccepts).le.trans (h.from_column u hu)
  ordered := .cons h.from_column h.ordered
  sliced := by
    refine List.forall_mem_cons.2 ⟨?_, h.sliced⟩
    rw [hsplit, List.take_left]
  classed := List.forall_mem_cons.2 ⟨haccepts, h.classed⟩
  blank i c hi hc hcovers := by
    obtain ⟨hfirst, hothers⟩ := List.forall_mem_cons.1 hcovers
    have hstop : t.stop ≤ i := Nat.le_of_not_lt fun hlt => hfirst ⟨hi, hlt⟩
    exact h.blank i c hstop hc hothers
  maximal := List.forall_mem_cons.2 ⟨hmax, h.maximal⟩

/-- What stands behind the first token is cut by the others. -/
theorem tail (h : IsSegmentationFrom chars column (t :: tokens)) :
    IsSegmentationFrom chars t.stop tokens where
  from_column := (List.pairwise_cons.1 h.ordered).1
  ordered := (List.pairwise_cons.1 h.ordered).2
  sliced := (List.forall_mem_cons.1 h.sliced).2
  classed := (List.forall_mem_cons.1 h.classed).2
  blank i c hi hc hcovers := by
    have hposition : t.position < t.stop :=
      Token.position_lt_stop (h.classed t List.mem_cons_self)
    have hcolumn : column ≤ i :=
      (h.from_column t List.mem_cons_self).trans (hposition.le.trans hi)
    refine h.blank i c hcolumn hc (List.forall_mem_cons.2 ⟨fun hcover => ?_, hcovers⟩)
    exact absurd hcover.2 (Nat.not_lt.2 hi)
  maximal := (List.forall_mem_cons.1 h.maximal).2

/-- Where no token begins, a blank stands and can be passed over. -/
theorem of_later (h : IsSegmentationFrom chars column tokens)
    (hlater : ∀ t ∈ tokens, column < t.position) :
    (∀ c, chars[column]? = some c → isBlank c = true) ∧
      IsSegmentationFrom chars (column + 1) tokens := by
  constructor
  · intro c hc
    exact h.blank column c (Nat.le_refl _) hc fun t ht hcover =>
      absurd hcover.1 (Nat.not_le.2 (hlater t ht))
  · exact ⟨hlater, h.ordered, h.sliced, h.classed,
      fun i c hi => h.blank i c (Nat.le_of_succ_le hi), h.maximal⟩

end IsSegmentationFrom

/-! ## Reading and cutting -/

/-- What is read to the end of a line cuts it. -/
theorem Scans.isSegmentationFrom {column' : Nat} (h : Scans column s tokens column' [])
    (hs : chars.drop column = s) : IsSegmentationFrom chars column tokens := by
  generalize hend : ([] : List Char) = last at h
  induction h with
  | done =>
    rw [← hend] at hs
    exact .nil (List.drop_eq_nil_iff.1 hs)
  | @blank column column' c s s' tokens hblank _ ih =>
    have hc : chars[column]? = some c := by
      rw [← List.head?_drop, hs, List.head?_cons]
    have hrest : chars.drop (column + 1) = s := by
      rw [← List.tail_drop, hs, List.tail_cons]
    exact .cons_blank hc hblank (ih hrest hend)
  | @token column' t s s' tokens haccepts hmax _ ih =>
    have hrest : chars.drop t.stop = s := by
      rw [Token.stop, ← List.drop_drop, hs, List.drop_left]
    exact .cons_token (by rw [hs, hrest]) haccepts (by rwa [hrest]) (ih hrest hend)

/-- What cuts a line is read from its start to its end. -/
theorem IsSegmentationFrom.exists_scans (h : IsSegmentationFrom chars column tokens) :
    ∃ column', Scans column (chars.drop column) tokens column' [] := by
  induction hn : chars.length - column using Nat.strong_induction_on generalizing column tokens with
  | _ n ih =>
    by_cases hend : chars.length ≤ column
    · -- a token would have to be cut out of nothing
      have hnil : tokens = [] := by
        refine List.eq_nil_iff_forall_not_mem.2 fun t ht => ?_
        have hempty : chars.drop t.position = [] :=
          List.drop_eq_nil_of_le (hend.trans (h.from_column t ht))
        have hslice := h.sliced t ht
        rw [hempty, List.take_nil] at hslice
        exact text_ne_nil_of_accepts (h.classed t ht) hslice.symm
      rw [List.drop_eq_nil_of_le hend, hnil]
      exact ⟨column, .done⟩
    have hlt : column < chars.length := Nat.lt_of_not_le hend
    by_cases hfirst : ∃ t rest, tokens = t :: rest ∧ t.position = column
    · obtain ⟨t, rest, rfl, rfl⟩ := hfirst
      have haccepts := h.classed t List.mem_cons_self
      have hposition := Token.position_lt_stop haccepts
      obtain ⟨column', hscans⟩ := ih (chars.length - t.stop) (by omega) h.tail rfl
      rw [drop_position_eq (h.sliced t List.mem_cons_self)]
      exact ⟨column', .token haccepts (h.maximal t List.mem_cons_self) hscans⟩
    · have hlater : ∀ t ∈ tokens, column < t.position := by
        intro t ht
        cases tokens with
        | nil => cases ht
        | cons u rest =>
          have hu : column < u.position :=
            Nat.lt_of_le_of_ne (h.from_column u List.mem_cons_self) fun heq =>
              hfirst ⟨u, rest, rfl, heq.symm⟩
          rcases List.mem_cons.1 ht with rfl | hmem
          · exact hu
          · have hstop := h.tail.from_column t hmem
            have hposition := Token.position_lt_stop (h.classed u List.mem_cons_self)
            omega
      obtain ⟨hblank, hnext⟩ := h.of_later hlater
      obtain ⟨column', hscans⟩ := ih (chars.length - (column + 1)) (by omega) hnext rfl
      rw [List.drop_eq_getElem_cons hlt]
      exact ⟨column', .blank (hblank _ (List.getElem?_eq_getElem hlt)) hscans⟩

/-- The tokenizer finds a segmentation if there is one. -/
theorem tokenize_eq_ok_iff_isSegmentation :
    tokenize chars = .ok tokens ↔ IsSegmentation chars tokens := by
  rw [tokenize_eq_ok_iff, isSegmentation_iff_from]
  constructor
  · rintro ⟨column', hscans⟩
    exact hscans.isSegmentationFrom rfl
  · intro h
    exact h.exists_scans

/-- In a segmentation the tokens begin one behind the other. -/
theorem IsSegmentation.positions_increase (h : IsSegmentation chars tokens) :
    tokens.Pairwise fun t u => t.position < u.position := by
  refine h.ordered.imp_of_mem fun ht _ hle => ?_
  exact (Token.position_lt_stop (h.classed _ ht)).trans_le hle

/-! ## The reading comes to an end -/

/-- A lexeme takes off at least one character, and no more than there are. -/
theorem Lexeme.length_of_munch? {lexeme : Lexeme} (h : munch? s = some lexeme) :
    0 < lexeme.length ∧ lexeme.length ≤ s.length := by
  obtain ⟨kind?, n⟩ := lexeme
  cases kind? with
  | some kind =>
    obtain ⟨w, rest, rfl, rfl, haccepts, -⟩ := exists_of_munch? h
    have htoken : (⟨kind, w, 0⟩ : Token).kind.accepts w = true := haccepts
    refine ⟨List.length_pos_iff.2 (text_ne_nil_of_accepts htoken), ?_⟩
    rw [List.length_append]
    exact Nat.le_add_right _ _
  | none =>
    obtain ⟨c, rest, rfl, hc⟩ := exists_blank_of_munch? h
    rw [munch?_blank hc] at h
    cases h
    refine ⟨?_, (List.takeWhile_sublist _).length_le⟩
    rw [List.takeWhile_cons_of_pos hc]
    exact Nat.succ_pos _

/-- What is read from one place of a line to another lies between them. -/
theorem Scans.drop_eq {column' : Nat} {s' : List Char} (h : Scans column s tokens column' s')
    (hs : chars.drop column = s) : chars.drop column' = s' := by
  induction h with
  | done => exact hs
  | blank _ _ ih =>
    refine ih ?_
    rw [← List.tail_drop, hs, List.tail_cons]
  | token _ _ _ ih =>
    refine ih ?_
    rw [Token.stop, ← List.drop_drop, hs, List.drop_left]

/-- A line has tokens, or the reading stops at a character with which no lexeme begins. -/
theorem tokenize_ok_or_stops (chars : List Char) :
    (∃ tokens, tokenize chars = .ok tokens) ∨
      ∃ e, tokenize chars = .error e ∧ chars[e.column]? = some e.found ∧
        Lexeme.munch? (chars.drop e.column) = none := by
  obtain ⟨tokens, column, s, hscans, hend⟩ := exists_scans 0 chars
  have hplace : chars.drop column = s := hscans.drop_eq rfl
  cases s with
  | nil => exact .inl ⟨tokens, tokenize_eq_ok_iff.2 ⟨column, hscans⟩⟩
  | cons c rest =>
    refine .inr ⟨⟨c, column⟩, ?_, ?_, ?_⟩
    · rw [tokenize, hscans.tokenizeFrom_eq, tokenizeFrom_of_none hend]
    · rw [← List.head?_drop, hplace, List.head?_cons]
    · rw [hplace, hend]

/-! ## One segmentation -/

/-- **The tokens of a line are its only segmentation.**  They begin one behind the other, each is
the piece of the line at its column and of its class, what lies outside of them is blank and none
of them could be longer; and no other pieces of the line, lying apart from each other as those of a
segmentation do, have these properties.  The reading comes to an end with every line: each turn
takes off at least one character, and no more than are left, until there are none or one is met
with which nothing begins. -/
theorem tokens_only_segmentation (chars : List Char) :
    (∀ tokens, tokenize chars = .ok tokens →
        tokens.Pairwise (fun t u => t.position < u.position) ∧ IsSegmentation chars tokens ∧
          ∀ tokens', IsSegmentation chars tokens' → tokens' = tokens) ∧
      (∀ tokens, IsSegmentation chars tokens → tokenize chars = .ok tokens) ∧
      ((∃ tokens, tokenize chars = .ok tokens) ∨
        ∃ e, tokenize chars = .error e ∧ chars[e.column]? = some e.found ∧
          Lexeme.munch? (chars.drop e.column) = none) ∧
      ∀ column lexeme, Lexeme.munch? (chars.drop column) = some lexeme →
        0 < lexeme.length ∧ column + lexeme.length ≤ chars.length := by
  refine ⟨fun tokens h => ?_, fun tokens h => tokenize_eq_ok_iff_isSegmentation.2 h,
    tokenize_ok_or_stops chars, fun column lexeme h => ?_⟩
  · have hcut := tokenize_eq_ok_iff_isSegmentation.1 h
    refine ⟨hcut.positions_increase, hcut, fun tokens' hcut' => ?_⟩
    have h' := tokenize_eq_ok_iff_isSegmentation.2 hcut'
    rw [h] at h'
    exact (Except.ok.inj h').symm
  · obtain ⟨hpos, hle⟩ := Lexeme.length_of_munch? h
    rw [List.length_drop] at hle
    exact ⟨hpos, by omega⟩

/-- The theorem at `12.50x1 (7`, where a word follows a number at once and the last digits of the
number are no piece of their own, and at `1.x`, which has no tokens. -/
theorem tokens_only_segmentation_glued :
    let chars := "12.50x1 (7".toList
    let tokens : List Token :=
      [⟨.number, "12.50".toList, 0⟩, ⟨.identifier, "x1".toList, 5⟩, ⟨.symbol, ['('], 8⟩,
        ⟨.number, ['7'], 9⟩]
    tokenize chars = .ok tokens ∧ IsSegmentation chars tokens ∧
      ¬ IsSegmentation chars (tokens.insertIdx 1 ⟨.number, "50".toList, 3⟩) ∧
      ∃ e, tokenize "1.x".toList = .error e ∧ "1.x".toList[e.column]? = some e.found := by
  intro chars tokens
  have htokens : tokenize chars = .ok tokens := rfl
  have hfails : ¬ ∃ tokens, tokenize "1.x".toList = .ok tokens := by
    rintro ⟨_, h⟩
    cases h
  obtain ⟨-, hcut, honly⟩ := (tokens_only_segmentation chars).1 tokens htokens
  obtain ⟨-, -, hends, -⟩ := tokens_only_segmentation "1.x".toList
  obtain ⟨e, he, hfound, -⟩ := hends.resolve_left hfails
  refine ⟨htokens, hcut, fun h => ?_, e, he, hfound⟩
  exact absurd (honly _ h) (by decide)

end DeskCalculator
