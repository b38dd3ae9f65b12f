import DeskCalculator.Proofs.Decimal.Numeral
import Mathlib.Data.List.Chain

/-!
# Tokens without blanks between them

The texts of tokens put together are a line again, and the question is whether it has the same
tokens.  It has, unless two of them run into each other: a number into a number, or a word into a
number or a word.

* `Token.RunsInto`, `RunsApart` — when two neighbours, or none of a list, run into each other.
* `isMaximal_cons_iff` — a token could be longer exactly if it runs into the next one.
* `tokenize_joinTokens` — tokens that run apart are found again, in columns of their own.
* `exists_take_of_seam` — where the characters on both sides belong to no token in common, the
  texts put together are cut between two of them.
* `Scans.length_le_of_joined` — so putting tokens together never makes more of them, and makes
  fewer if some run into each other.
-/

namespace DeskCalculator

variable {c d : Char} {a b s rest : List Char} {t u : Token} {tokens found : List Token}

/-! ## First and last characters -/

/-- A character with which texts of a class begin. -/
def TokenKind.begins : TokenKind → Char → Bool
  | .number => isDigit
  | .identifier => isWordStart
  | .symbol => isSymbolChar

/-- A character with which texts of a class end. -/
def TokenKind.ends : TokenKind → Char → Bool
  | .number => isDigit
  | .identifier => isWordChar
  | .symbol => isSymbolChar

/-- The text of a symbol is one character. -/
theorem exists_symbolChar (h : TokenKind.symbol.accepts s = true) :
    ∃ c, s = [c] ∧ isSymbolChar c = true := by
  cases s with
  | nil => cases h
  | cons c w =>
    cases w with
    | nil => exact ⟨c, rfl, h⟩
    | cons d w => cases h

theorem exists_begins (h : t.kind.accepts t.text = true) :
    ∃ c w, t.text = c :: w ∧ t.kind.begins c = true := by
  obtain ⟨kind, text, position⟩ := t
  cases kind with
  | number => exact head_of_isNumber h
  | identifier =>
    cases text with
    | nil => cases h
    | cons c w =>
      have hboth : isWordStart c = true ∧ w.all isWordChar = true := by
        simpa [TokenKind.accepts, isIdentifier] using h
      exact ⟨c, w, rfl, hboth.1⟩
  | symbol =>
    obtain ⟨c, htext, hc⟩ := exists_symbolChar h
    exact ⟨c, [], htext, hc⟩

/-- A word has only characters of words. -/
theorem isWordChar_of_isIdentifier (h : isIdentifier s = true) : ∀ c ∈ s, isWordChar c = true := by
  cases s with
  | nil => cases h
  | cons c w =>
    simp only [isIdentifier, Bool.and_eq_true, List.all_eq_true] at h
    refine List.forall_mem_cons.2 ⟨?_, h.2⟩
    simp [isWordChar, h.1]

theorem ends_of_accepts (h : t.kind.accepts t.text = true) :
    ∀ c ∈ t.text.getLast?, t.kind.ends c = true := by
  obtain ⟨kind, text, position⟩ := t
  intro c hc
  cases kind with
  | number =>
    obtain ⟨whole, tail, rfl, hne, hwhole, htail⟩ := isNumber_iff.1 h
    rcases htail with rfl | ⟨fraction, rfl, hfraction, hdigits⟩
    · rw [List.append_nil] at hc
      exact hwhole c (List.mem_of_getLast? hc)
    · rw [List.getLast?_append_of_ne_nil _ (List.cons_ne_nil _ _),
        List.getLast?_cons_of_ne_nil hfraction] at hc
      exact hdigits c (List.mem_of_getLast? hc)
  | identifier => exact isWordChar_of_isIdentifier h c (List.mem_of_getLast? hc)
  | symbol =>
    obtain ⟨e, rfl, he⟩ := exists_symbolChar h
    cases hc
    exact he

theorem not_isWordChar_of_isSymbolChar (h : isSymbolChar c = true) : isWordChar c = false := by
  obtain ⟨-, hdigit, hword⟩ := not_of_isSymbolChar h
  rw [isWordChar, hword, hdigit]
  rfl

/-- What begins a token is no blank and no point. -/
theorem TokenKind.not_of_begins {kind : TokenKind} (h : kind.begins c = true) :
    isBlank c = false ∧ c ≠ '.' := by
  cases kind with
  | number => exact ⟨not_isBlank_of_isDigit h, by rintro rfl; exact absurd h (by decide)⟩
  | identifier => exact ⟨(not_of_isWordStart h).1, by rintro rfl; exact absurd h (by decide)⟩
  | symbol => exact ⟨(not_of_isSymbolChar h).1, by rintro rfl; exact absurd h (by decide)⟩

/-- The first character tells the classes apart. -/
theorem TokenKind.eq_of_begins {kind kind' : TokenKind} (h : kind.begins c = true)
    (h' : kind'.begins c = true) : kind = kind' := by
  have hword : ∀ {c}, isWordStart c = true → isDigit c = false := fun h => (not_of_isWordStart h).2
  have hsymbol : ∀ {c}, isSymbolChar c = true → isDigit c = false ∧ isWordStart c = false :=
    fun h => (not_of_isSymbolChar h).2
  cases kind <;> cases kind' <;> simp only [begins] at h h' <;> first
    | rfl
    | simp_all

/-! ## Neighbours -/

/-- A token continues into one that follows it at once: a number into a number, and a word into
whatever is no symbol. -/
def Token.RunsInto (t u : Token) : Prop :=
  (t.kind = .number ∧ u.kind = .number) ∨ (t.kind = .identifier ∧ u.kind ≠ .symbol)

/-- No token of a list runs into the next one. -/
def RunsApart (tokens : List Token) : Prop := tokens.IsChain fun t u => ¬ t.RunsInto u

/-- A token could be longer exactly if it runs into what begins behind it. -/
theorem isMaximal_cons_iff (hc : u.kind.begins c = true) :
    IsMaximal t (c :: rest) ↔ ¬ t.RunsInto u := by
  obtain ⟨kind, text, position⟩ := t
  obtain ⟨kind', text', position'⟩ := u
  have hpoint := (TokenKind.not_of_begins hc).2
  cases kind with
  | number =>
    have hmax : IsMaximal ⟨.number, text, position⟩ (c :: rest) ↔ isDigit c = false := by
      simp [IsMaximal, hpoint]
    rw [hmax]
    cases kind' with
    | number => simp [Token.RunsInto, show isDigit c = true from hc]
    | identifier => simp [Token.RunsInto, (not_of_isWordStart hc).2]
    | symbol => simp [Token.RunsInto, (not_of_isSymbolChar hc).2.1]
  | identifier =>
    have hmax : IsMaximal ⟨.identifier, text, position⟩ (c :: rest) ↔ isWordChar c = false := by
      simp [IsMaximal]
    rw [hmax]
    cases kind' with
    | number => simp [Token.RunsInto, isWordChar, show isDigit c = true from hc]
    | identifier => simp [Token.RunsInto, isWordChar, show isWordStart c = true from hc]
    | symbol => simp [Token.RunsInto, not_isWordChar_of_isSymbolChar hc]
  | symbol => simp [IsMaximal, Token.RunsInto]

/-! ## Texts put together -/

theorem joinTokens_cons : joinTokens (t :: tokens) = t.text ++ joinTokens tokens := rfl

/-- What begins the first token begins the texts put together. -/
theorem exists_begins_joinTokens (h : u.kind.accepts u.text = true) :
    ∃ c w, joinTokens (u :: tokens) = c :: w ∧ u.kind.begins c = true := by
  obtain ⟨c, w, hw, hc⟩ := exists_begins h
  exact ⟨c, w ++ joinTokens tokens, by rw [joinTokens_cons, hw, List.cons_append], hc⟩

/-- The texts of tokens put together begin with no blank. -/
theorem not_isBlank_of_joinTokens (haccepts : ∀ t ∈ tokens, t.kind.accepts t.text = true)
    (h : joinTokens tokens = c :: s) : isBlank c = false := by
  cases tokens with
  | nil => cases h
  | cons u tokens =>
    obtain ⟨d, w, hw, hd⟩ := exists_begins_joinTokens (haccepts u List.mem_cons_self)
    rw [hw] at h
    cases h
    exact (TokenKind.not_of_begins hd).1

/-- At the end of a line no token could be longer. -/
theorem isMaximal_nil : IsMaximal t [] := by
  unfold IsMaximal
  split <;> simp

/-- A list of tokens runs apart if none could be longer where the texts are put together. -/
theorem runsApart_cons_iff (haccepts : ∀ u ∈ tokens, u.kind.accepts u.text = true) :
    RunsApart (t :: tokens) ↔ IsMaximal t (joinTokens tokens) ∧ RunsApart tokens := by
  rw [RunsApart, List.isChain_cons, ← RunsApart]
  refine and_congr_left fun _ => ?_
  cases tokens with
  | nil => exact ⟨fun _ => isMaximal_nil, fun _ u hu => by cases hu⟩
  | cons u tokens =>
    obtain ⟨c, w, hw, hc⟩ := exists_begins_joinTokens (haccepts u List.mem_cons_self)
    rw [hw, isMaximal_cons_iff hc]
    simp

/-- The token, wherever it stands. -/
def Token.unplaced (t : Token) : Token := { t with position := 0 }

/-- The tokens in the columns that they have from a given one on if nothing stands between them. -/
def packed (column : Nat) : List Token → List Token
  | [] => []
  | t :: rest => { t with position := column } :: packed (column + t.text.length) rest

theorem map_unplaced_packed (column : Nat) (tokens : List Token) :
    (packed column tokens).map Token.unplaced = tokens.map Token.unplaced := by
  induction tokens generalizing column with
  | nil => rfl
  | cons t rest ih =>
    rw [packed, List.map_cons, List.map_cons, ih]
    rfl

/-- Tokens that run apart are read from their texts put together. -/
theorem exists_scans_packed (haccepts : ∀ t ∈ tokens, t.kind.accepts t.text = true)
    (h : RunsApart tokens) (column : Nat) :
    ∃ column', Scans column (joinTokens tokens) (packed column tokens) column' [] := by
  induction tokens generalizing column with
  | nil => exact ⟨column, .done⟩
  | cons t rest ih =>
    obtain ⟨ht, hrest⟩ := List.forall_mem_cons.1 haccepts
    obtain ⟨hmax, hapart⟩ := (runsApart_cons_iff hrest).1 h
    obtain ⟨column', hscans⟩ := ih hrest hapart (column + t.text.length)
    exact ⟨column', .token (t := { t with position := column }) ht hmax hscans⟩

/-- Tokens that run apart are found again when their texts are put together. -/
theorem tokenize_joinTokens (haccepts : ∀ t ∈ tokens, t.kind.accepts t.text = true)
    (h : RunsApart tokens) : tokenize (joinTokens tokens) = .ok (packed 0 tokens) :=
  tokenize_eq_ok_iff.2 (exists_scans_packed haccepts h 0)

/-! ## Seams -/

/-- Two neighbouring characters that can only stand in one token. -/
def Glued (c d : Char) : Prop :=
  (isDigit c = true ∧ isDigit d = true) ∨ (isWordStart c = true ∧ isWordChar d = true) ∨
    c = '.' ∨ d = '.'

/-- A place of a text that can lie between two tokens. -/
def IsSeam (a b : List Char) : Prop := ∀ c ∈ a.getLast?, ∀ d ∈ b.head?, ¬ Glued c d

/-- A token that could not be longer ends at a seam. -/
theorem isSeam_of_isMaximal (haccepts : t.kind.accepts t.text = true) (hmax : IsMaximal t rest)
    (hpoint : rest.head? ≠ some '.') : IsSeam t.text rest := by
  intro c hc d hd
  have hends := ends_of_accepts haccepts c hc
  have hd' : d ≠ '.' := by
    rintro rfl
    exact hpoint hd
  obtain ⟨kind, text, position⟩ := t
  cases kind with
  | number =>
    have hdigit : isDigit c = true := hends
    have hnext : isDigit d = false := hmax.1 d hd
    have hstart : isWordStart c = false := by
      rw [← Bool.not_eq_true]
      intro hword
      rw [(not_of_isWordStart hword).2] at hdigit
      cases hdigit
    have hc' : c ≠ '.' := by
      rintro rfl
      exact absurd hdigit (by decide)
    simp [Glued, hnext, hstart, hc', hd']
  | identifier =>
    have hword : isWordChar c = true := hends
    have hnext : isWordChar d = false := hmax d hd
    have hdigit : isDigit d = false := (Bool.or_eq_false_iff.1 hnext).2
    have hc' : c ≠ '.' := by
      rintro rfl
      exact absurd hword (by decide)
    simp [Glued, hdigit, hnext, hc', hd']
  | symbol =>
    have hsymbol : isSymbolChar c = true := hends
    obtain ⟨-, hdigit, hstart⟩ := not_of_isSymbolChar hsymbol
    have hc' : c ≠ '.' := by
      rintro rfl
      exact absurd hsymbol (by decide)
    simp [Glued, hdigit, hstart, hc', hd']

/-- The text of a number, a symbol or a word of letters has no seam in it. -/
theorem not_isSeam_within (haccepts : t.kind.accepts t.text = true)
    (hplain : t.kind = .identifier → ∀ c ∈ t.text, isWordStart c = true)
    (hsplit : t.text = a ++ b) (ha : a ≠ []) (hb : b ≠ []) : ¬ IsSeam a b := by
  intro hseam
  obtain ⟨c, hc⟩ : ∃ c, c ∈ a.getLast? := ⟨_, List.getLast?_eq_some_getLast ha⟩
  obtain ⟨d, hd⟩ : ∃ d, d ∈ b.head? := ⟨_, List.head?_eq_some_head hb⟩
  have hcmem : c ∈ t.text := by
    rw [hsplit]
    exact List.mem_append_left _ (List.mem_of_getLast? hc)
  have hdmem : d ∈ t.text := by
    rw [hsplit]
    exact List.mem_append_right _ (List.mem_of_mem_head? hd)
  refine hseam c hc d hd ?_
  cases hkind : t.kind with
  | number =>
    rw [hkind] at haccepts
    rcases isDigit_or_of_isNumber haccepts c hcmem with hcd | rfl
    · rcases isDigit_or_of_isNumber haccepts d hdmem with hdd | rfl
      · exact .inl ⟨hcd, hdd⟩
      · exact .inr (.inr (.inr rfl))
    · exact .inr (.inr (.inl rfl))
  | identifier =>
    rw [hkind] at haccepts
    exact .inr (.inl ⟨hplain hkind c hcmem, isWordChar_of_isIdentifier haccepts d hdmem⟩)
  | symbol =>
    rw [hkind] at haccepts
    obtain ⟨e, htext, -⟩ := exists_symbolChar haccepts
    have hlength := congrArg List.length hsplit
    have hapos := List.length_pos_iff.2 ha
    have hbpos := List.length_pos_iff.2 hb
    rw [htext, List.length_append, List.length_singleton] at hlength
    omega

/-- A seam of the texts put together lies between two tokens. -/
theorem exists_take_of_seam (haccepts : ∀ t ∈ tokens, t.kind.accepts t.text = true)
    (hplain : ∀ t ∈ tokens, t.kind = .identifier → ∀ c ∈ t.text, isWordStart c = true)
    (hsplit : joinTokens tokens = a ++ b) (hseam : IsSeam a b) :
    ∃ k, a = joinTokens (tokens.take k) ∧ b = joinTokens (tokens.drop k) := by
  induction tokens generalizing a with
  | nil =>
    obtain ⟨rfl, rfl⟩ := List.append_eq_nil_iff.1 hsplit.symm
    exact ⟨0, rfl, rfl⟩
  | cons t rest ih =>
    obtain ⟨ht, hrest⟩ := List.forall_mem_cons.1 haccepts
    obtain ⟨htplain, hrestplain⟩ := List.forall_mem_cons.1 hplain
    rw [joinTokens_cons] at hsplit
    rcases List.append_eq_append_iff.1 hsplit with ⟨a', rfl, hrestsplit⟩ | ⟨b', htext, rfl⟩
    · -- the cut lies behind the first token
      cases ha' : a' with
      | nil =>
        subst ha'
        exact ⟨1, by simp [joinTokens], by simpa using hrestsplit.symm⟩
      | cons e w =>
        have hne : a' ≠ [] := by simp [ha']
        have hseam' : IsSeam a' b := fun c hc =>
          hseam c (by rwa [List.getLast?_append_of_ne_nil _ hne])
        obtain ⟨k, htake, hdrop⟩ := ih hrest hrestplain hrestsplit hseam'
        exact ⟨k + 1, by rw [← ha', htake, List.take_succ_cons, joinTokens_cons], hdrop⟩
    · -- the cut lies before its end, where it can only lie at its start
      by_cases ha : a = []
      · subst ha
        exact ⟨0, rfl, by rw [List.drop_zero, joinTokens_cons, htext, List.nil_append]⟩
      · by_cases hb' : b' = []
        · subst hb'
          rw [List.append_nil] at htext
          exact ⟨1, by simp [joinTokens, htext], by simp⟩
        · refine absurd (fun c hc d hd => hseam c hc d ?_)
            (not_isSeam_within ht htplain htext ha hb')
          rwa [List.head?_append_of_ne_nil _ hb']

/-- What is read to the end of a text does not begin with a point. -/
theorem Scans.head_ne_point {column column' : Nat} (h : Scans column s found column' []) :
    s.head? ≠ some '.' := by
  cases h with
  | done => simp
  | @blank _ _ c _ _ _ hc _ =>
    intro hhead
    cases hhead
    exact absurd hc (by decide)
  | @token _ t rest _ _ haccepts _ _ =>
    obtain ⟨c, w, hw, hc⟩ := exists_begins haccepts
    rw [hw, List.cons_append, List.head?_cons]
    intro hpoint
    exact (TokenKind.not_of_begins hc).2 (Option.some.inj hpoint)

/-- Putting tokens together never makes more of them, and makes fewer if some run into each
other. -/
theorem Scans.length_le_of_joined {column column' : Nat} {last : List Char}
    (h : Scans column s found column' last) (hlast : last = [])
    (haccepts : ∀ t ∈ tokens, t.kind.accepts t.text = true)
    (hplain : ∀ t ∈ tokens, t.kind = .identifier → ∀ c ∈ t.text, isWordStart c = true)
    (hs : s = joinTokens tokens) :
    found.length ≤ tokens.length ∧ (found.length = tokens.length → RunsApart tokens) := by
  induction h generalizing tokens with
  | done =>
    refine ⟨Nat.zero_le _, fun hlength => ?_⟩
    rw [List.length_eq_zero_iff.1 hlength.symm]
    exact .nil
  | @blank column column' c s s' found hc _ _ =>
    rw [not_isBlank_of_joinTokens haccepts hs.symm] at hc
    cases hc
  | @token column' t s s' found ht hmax hscans ih =>
    subst hlast
    have hseam := isSeam_of_isMaximal ht hmax hscans.head_ne_point
    obtain ⟨k, htake, hdrop⟩ := exists_take_of_seam haccepts hplain hs.symm hseam
    have hne := text_ne_nil_of_accepts ht
    cases tokens with
    | nil =>
      rw [List.take_nil] at htake
      exact absurd htake hne
    | cons u tokens =>
      cases k with
      | zero => exact absurd htake hne
      | succ k =>
        rw [List.drop_succ_cons] at hdrop
        obtain ⟨hu, hrest⟩ := List.forall_mem_cons.1 haccepts
        obtain ⟨hle, heq⟩ := ih rfl (fun v hv => hrest v (List.mem_of_mem_drop hv))
          (fun v hv => hplain v (List.mem_cons_of_mem _ (List.mem_of_mem_drop hv))) hdrop
        rw [List.length_drop] at hle heq
        refine ⟨by rw [List.length_cons, List.length_cons]; omega, fun hlength => ?_⟩
        -- nothing was lost, so the first token is the one that was found
        rw [List.length_cons, List.length_cons] at hlength
        have hk : k = 0 ∨ tokens = [] := by
          by_cases hnil : tokens = []
          · exact .inr hnil
          · have := List.length_pos_iff.2 hnil
            exact .inl (by omega)
        have htext : t.text = u.text := by
          rw [htake, List.take_succ_cons, joinTokens_cons]
          rcases hk with rfl | rfl
          · rw [List.take_zero]
            exact List.append_nil _
          · rw [List.take_nil]
            exact List.append_nil _
        have hdropped : tokens.drop k = tokens := by
          rcases hk with rfl | rfl
          · exact List.drop_zero
          · exact List.drop_nil
        have hkind : t.kind = u.kind := by
          obtain ⟨c, w, hw, hc⟩ := exists_begins ht
          obtain ⟨d, w', hw', hd⟩ := exists_begins hu
          rw [hw, hw'] at htext
          cases htext
          exact TokenKind.eq_of_begins hc hd
        rw [hdropped] at hdrop heq
        refine (runsApart_cons_iff hrest).2 ⟨?_, heq (by omega)⟩
        rw [hdrop] at hmax
        unfold IsMaximal at hmax ⊢
        rwa [← hkind, ← htext]

end DeskCalculator
