import DeskCalculator.Proofs.Token.Joining

/-!
# When putting tokens together is faithful

The texts of the tokens of a line, put together, may be read again.  The same tokens are found in
them, but for their columns, exactly if no two neighbours run into each other.

* `lexemes` — the classes and texts of tokens, which is all of them but the columns.
* `runsApart_iff_lexemes` — which neighbours run into each other is seen from their classes.
* `Scans.runsApart` — tokens that are found in their own texts run apart.
* `rejoined_iff` — the two directions together.
-/

namespace DeskCalculator

variable {s last : List Char} {t u : Token} {tokens found : List Token}

/-! ## Tokens without columns -/

/-- The classes and the texts of tokens, in order. -/
def lexemes (tokens : List Token) : List (TokenKind × List Char) :=
  tokens.map fun t => (t.kind, t.text)

/-- The classes of two neighbours of which the first continues into the second. -/
def runningPairs : List (TokenKind × TokenKind) :=
  [(.number, .number), (.identifier, .number), (.identifier, .identifier)]

theorem Token.runsInto_iff : t.RunsInto u ↔ (t.kind, u.kind) ∈ runningPairs := by
  cases ht : t.kind <;> cases hu : u.kind <;> simp [Token.RunsInto, runningPairs, ht, hu]

/-- Tokens run apart if the classes of no two neighbours are such that they do not. -/
theorem runsApart_iff_lexemes :
    RunsApart tokens ↔ (lexemes tokens).IsChain fun x y => (x.1, y.1) ∉ runningPairs := by
  rw [lexemes, List.isChain_map]
  simp only [RunsApart, Token.runsInto_iff]

theorem joinTokens_eq_lexemes : joinTokens tokens = (lexemes tokens).flatMap Prod.snd := by
  rw [lexemes, List.flatMap_map]
  rfl

theorem lexemes_packed (column : Nat) (tokens : List Token) :
    lexemes (packed column tokens) = lexemes tokens := by
  induction tokens generalizing column with
  | nil => rfl
  | cons t rest ih => exact congrArg ((t.kind, t.text) :: ·) (ih _)

/-! ## Tokens found in their own texts -/

/-- What is read from the texts of its own tokens runs apart: nothing stands between them, and still
none of them could be longer. -/
theorem Scans.runsApart {column column' : Nat} (h : Scans column s found column' last)
    (hs : s = joinTokens found) : RunsApart found := by
  induction h with
  | done => exact .nil
  | blank hc hscans _ =>
    rw [not_isBlank_of_joinTokens hscans.accepts hs.symm] at hc
    cases hc
  | token _ hmax hscans ih =>
    rw [joinTokens_cons] at hs
    have hrest := List.append_cancel_left hs
    refine (runsApart_cons_iff hscans.accepts).2 ⟨?_, ih hrest⟩
    rwa [← hrest]

/-- **When putting tokens together is faithful.**  The texts of the tokens of a line, put together,
have tokens of the same classes and texts in the same order, if and only if nowhere a number is
followed by a number, or a word by a number or a word. -/
theorem rejoined_iff {line : List Char} (h : tokenize line = .ok tokens) :
    (∃ found, tokenize (joinTokens tokens) = .ok found ∧ lexemes found = lexemes tokens) ↔
      tokens.IsChain fun t u => (t.kind, u.kind) ∉ runningPairs := by
  simp only [← Token.runsInto_iff]
  constructor
  · rintro ⟨found, hfound, hlexemes⟩
    obtain ⟨column, hscans⟩ := tokenize_eq_ok_iff.1 hfound
    have htexts : joinTokens tokens = joinTokens found := by
      rw [joinTokens_eq_lexemes, joinTokens_eq_lexemes, hlexemes]
    have hrun : RunsApart found := hscans.runsApart htexts
    rwa [runsApart_iff_lexemes, hlexemes, ← runsApart_iff_lexemes] at hrun
  · intro hrun
    exact ⟨_, tokenize_joinTokens (accepts_of_tokenize h) hrun, lexemes_packed 0 tokens⟩

/-- The theorem at `2.5 ans * ( x1 - 3 )`, whose number and word stay apart, and at `ans 1.5`, from
which a word and a point that nothing begins with are put together. -/
theorem rejoined_iff_glued :
    (∃ tokens, tokenize "2.5 ans * ( x1 - 3 )".toList = .ok tokens ∧
      ∃ found, tokenize (joinTokens tokens) = .ok found ∧ lexemes found = lexemes tokens) ∧
      ∃ tokens, tokenize "ans 1.5".toList = .ok tokens ∧
        ¬ ∃ found, tokenize (joinTokens tokens) = .ok found ∧ lexemes found = lexemes tokens := by
  obtain ⟨apart, hapart⟩ : ∃ tokens, tokenize "2.5 ans * ( x1 - 3 )".toList = .ok tokens := ⟨_, rfl⟩
  obtain ⟨running, hrunning⟩ : ∃ tokens, tokenize "ans 1.5".toList = .ok tokens := ⟨_, rfl⟩
  refine ⟨⟨apart, hapart, (rejoined_iff hapart).2 ?_⟩,
    ⟨running, hrunning, fun hfaithful => absurd ((rejoined_iff hrunning).1 hfaithful) ?_⟩⟩
  · cases hapart
    simp [runningPairs]
  · cases hrunning
    simp [runningPairs]

end DeskCalculator
