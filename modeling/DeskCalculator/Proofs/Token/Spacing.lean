import DeskCalculator.Proofs.Replay
import DeskCalculator.Proofs.Token.Stopping

/-!
# Blanks between the parts of a line

Nothing is read across a blank: what stands in front of it and what stands behind it are read as
two lines would be.  So it does not matter either how many blanks there are between two tokens and
which ones, as long as there is one.

* `Scans.shifted` — the reading of a line from another column on.
* `scans_across` — a line with tokens and any other line are read in turn, with blanks between them.
* `Spelled` — a text with given tokens and blanks between them; `Spelled.exists_scans` says that
  they are read from it.
* `tokenize_across_blanks` — the three outcomes of reading two lines with blanks between them, and
  what a line stands for in another spelling.
-/

namespace DeskCalculator

variable {a b s s' w line : List Char} {column column' : Nat} {t : Token}
  {found tokens : List Token} {e : LexFailure}

/-! ## From another column on -/

/-- The token, some columns further to the right. -/
def Token.shifted (n : Nat) (t : Token) : Token := { t with position := t.position + n }

/-- The failure, some columns further to the right. -/
def LexFailure.shifted (n : Nat) (e : LexFailure) : LexFailure := { e with column := e.column + n }

theorem Token.stop_shifted (n : Nat) (t : Token) : (t.shifted n).stop = t.stop + n :=
  Nat.add_right_comm _ _ _

/-- What is read does not depend on the column where the reading begins. -/
theorem Scans.shifted (h : Scans column s tokens column' s') (n : Nat) :
    Scans (column + n) s (tokens.map (Token.shifted n)) (column' + n) s' := by
  induction h with
  | done => exact .done
  | blank hc _ ih =>
    rw [Nat.add_right_comm] at ih
    exact .blank hc ih
  | @token _ t _ _ _ haccepts hmax _ ih =>
    rw [← Token.stop_shifted] at ih
    exact .token (t := t.shifted n) haccepts hmax ih

/-! ## Across blanks -/

/-- No token goes on across a blank or the end of the line. -/
theorem isMaximal_of_blank (h : ∀ c ∈ s.head?, isBlank c = true) : IsMaximal t s := by
  cases s with
  | nil => exact isMaximal_nil
  | cons c s =>
    have hc : isBlank c = true := h c rfl
    obtain ⟨hdigit, hword⟩ := not_of_isBlank hc
    have hpoint : c ≠ '.' := by
      rintro rfl
      exact absurd hc (by decide)
    obtain ⟨kind, text, position⟩ := t
    cases kind <;> simp [IsMaximal, isWordChar, hdigit, hword, hpoint]

/-- What is put behind a line begins with a blank if there are blanks in between. -/
theorem head_blanks (hw : ∀ c ∈ w, isBlank c = true) (hne : w ≠ []) (b : List Char) :
    ∀ c ∈ (w ++ b).head?, isBlank c = true := by
  intro c hc
  rw [List.head?_append_of_ne_nil _ hne] at hc
  exact hw c (List.mem_of_mem_head? hc)

/-- A line with tokens and another one behind it are read in turn. -/
theorem scans_across (ha : tokenize a = .ok found) (hw : ∀ c ∈ w, isBlank c = true) (hne : w ≠ [])
    (hb : Scans 0 b tokens column s) :
    Scans 0 (a ++ w ++ b) (found ++ tokens.map (Token.shifted (a.length + w.length)))
      (column + (a.length + w.length)) s := by
  obtain ⟨stop, hscans⟩ := tokenize_eq_ok_iff.1 ha
  obtain ⟨front, hfront, hstop, hagain⟩ := hscans.exists_front
  rw [List.append_nil] at hfront
  rw [Nat.zero_add] at hstop
  subst hfront hstop
  have hbehind := hagain (w ++ b) fun t _ _ => isMaximal_of_blank (head_blanks hw hne b)
  have hgap := scans_blanks hw a.length b
  have hshifted := hb.shifted (a.length + w.length)
  rw [Nat.zero_add] at hshifted
  rw [List.append_assoc]
  exact hbehind.trans (hgap.trans hshifted)

theorem tokenize_across_of_error (ha : tokenize a = .error e) (hw : ∀ c ∈ w, isBlank c = true)
    (hne : w ≠ []) : tokenize (a ++ w ++ b) = .error e := by
  rw [List.append_assoc]
  exact tokenize_append_of_error ha fun c hc => (not_of_isBlank (head_blanks hw hne b c hc)).1

theorem tokenize_across_of_ok_error (ha : tokenize a = .ok found) (hw : ∀ c ∈ w, isBlank c = true)
    (hne : w ≠ []) (hb : tokenize b = .error e) :
    tokenize (a ++ w ++ b) = .error (e.shifted (a.length + w.length)) := by
  obtain ⟨front, tokens, rest, rfl, hcolumn, hstops⟩ := tokenize_eq_error_iff.1 hb
  have hlength : front.length + (a.length + w.length) = (a ++ w ++ front).length := by
    rw [List.length_append, List.length_append, Nat.add_comm]
  have hscans := scans_across ha hw hne hstops.scans
  rw [hlength, ← List.append_assoc] at hscans
  refine tokenize_eq_error_iff.2 ⟨a ++ w ++ front, _, rest, (List.append_assoc _ _ _).symm, ?_,
    hscans, hstops.stray⟩
  rw [← hlength, ← hcolumn]
  rfl

theorem tokenize_across_of_ok_ok (ha : tokenize a = .ok found) (hw : ∀ c ∈ w, isBlank c = true)
    (hne : w ≠ []) (hb : tokenize b = .ok tokens) :
    tokenize (a ++ w ++ b) =
      .ok (found ++ tokens.map (Token.shifted (a.length + w.length))) := by
  obtain ⟨column, hscans⟩ := tokenize_eq_ok_iff.1 hb
  exact tokenize_eq_ok_iff.2 ⟨_, scans_across ha hw hne hscans⟩

/-! ## Other spellings -/

/-- A text in which given tokens stand in order, with blanks between any two of them and perhaps
around them all. -/
inductive Spelled : List Token → List Char → Prop
  /-- Blanks spell nothing. -/
  | blanks {w : List Char} : (∀ c ∈ w, isBlank c = true) → Spelled [] w
  /-- Behind a token the text ends or a blank follows. -/
  | token {w s : List Char} {t : Token} {tokens : List Token} :
      (∀ c ∈ w, isBlank c = true) → (∀ c ∈ s.head?, isBlank c = true) → Spelled tokens s →
      Spelled (t :: tokens) (w ++ (t.text ++ s))

/-- The tokens are read from it, in columns of their own. -/
theorem Spelled.exists_scans (h : Spelled tokens s)
    (haccepts : ∀ t ∈ tokens, t.kind.accepts t.text = true) (column : Nat) :
    ∃ found column', Scans column s found column' [] ∧
      found.map Token.unplaced = tokens.map Token.unplaced := by
  induction h generalizing column with
  | @blanks w hw =>
    have hscans := scans_blanks hw column []
    rw [List.append_nil] at hscans
    exact ⟨[], _, hscans, rfl⟩
  | @token w s t tokens hw hbehind _ ih =>
    obtain ⟨ht, htokens⟩ := List.forall_mem_cons.1 haccepts
    obtain ⟨found, column', hscans, hfound⟩ := ih htokens (column + w.length + t.text.length)
    have htoken := Scans.token (t := { t with position := column + w.length }) ht
      (isMaximal_of_blank hbehind) hscans
    refine ⟨_ :: found, column', (scans_blanks hw column _).trans htoken, ?_⟩
    rw [List.map_cons, List.map_cons, hfound]
    rfl

/-- A line stands for the same in another spelling. -/
theorem evaluateLine_of_spelled (limits : StackLimits) (last? : Option Float)
    (hline : tokenize line = .ok tokens) (h : Spelled tokens s) :
    evaluateLine limits last? s = evaluateLine limits last? line := by
  obtain ⟨found, column, hscans, hfound⟩ := h.exists_scans (accepts_of_tokenize hline) 0
  have hs : tokenize s = .ok found := tokenize_eq_ok_iff.2 ⟨column, hscans⟩
  rw [evaluateLine_of_tokenize hs, evaluateLine_of_tokenize hline]
  exact evaluateTokens_of_map_unplaced limits last? hfound

/-- **Nothing is read across blanks.**  Of two lines with at least one blank between them the first
one fails as it does alone.  If it has tokens, the second one fails as it does alone, further to the
right by what stands in front of it.  If that has tokens too, those of the first line are read and
then those of the second, which are further to the right.  So a line with tokens stands for the same
number, or fails in the same way, however its tokens are spelled with blanks between and around
them. -/
theorem tokenize_across_blanks :
    (∀ a w b, w ≠ [] → (∀ c ∈ w, isBlank c = true) →
        (∀ e, tokenize a = .error e → tokenize (a ++ w ++ b) = .error e) ∧
          ∀ found, tokenize a = .ok found →
            (∀ e, tokenize b = .error e →
              tokenize (a ++ w ++ b) = .error (e.shifted (a.length + w.length))) ∧
            ∀ tokens, tokenize b = .ok tokens →
              tokenize (a ++ w ++ b) =
                .ok (found ++ tokens.map (Token.shifted (a.length + w.length)))) ∧
      ∀ limits last? line tokens s, tokenize line = .ok tokens → Spelled tokens s →
        evaluateLine limits last? s = evaluateLine limits last? line := by
  refine ⟨fun a w b hne hw => ⟨fun e ha => ?_, fun found ha => ⟨fun e hb => ?_, ?_⟩⟩, ?_⟩
  · exact tokenize_across_of_error ha hw hne
  · exact tokenize_across_of_ok_error ha hw hne hb
  · intro tokens hb
    exact tokenize_across_of_ok_ok ha hw hne hb
  · intro limits last? line tokens s hline hspelled
    exact evaluateLine_of_spelled limits last? hline hspelled

/-- The theorem at `3.` and `5`, which fail at the point although `3.5` is a number, at `ans 12` and
`.5`, which fail at the second one's point, and at `-ans`, which fails the same way in a wider
spelling. -/
theorem tokenize_across_blanks_points :
    let gap : List Char := ['\t', '\u2028']
    let wide : List Char := gap ++ ('-' :: gap ++ ("ans".toList ++ gap))
    tokenize ("3.".toList ++ gap ++ "5".toList) = .error ⟨'.', 1⟩ ∧
      tokenize ("ans 12".toList ++ gap ++ ".5".toList) = .error ⟨'.', 8⟩ ∧
      tokenize ("ans 12".toList ++ gap ++ " -7".toList) =
        .ok [⟨.identifier, "ans".toList, 0⟩, ⟨.number, "12".toList, 4⟩, ⟨.symbol, ['-'], 9⟩,
          ⟨.number, ['7'], 10⟩] ∧
      evaluateLine {} none wide = evaluateLine {} none "-ans".toList := by
  intro gap wide
  have hgap : ∀ c ∈ gap, isBlank c = true := List.all_eq_true.1 rfl
  have hne : gap ≠ [] := List.cons_ne_nil _ _
  have hline : tokenize "-ans".toList = .ok [⟨.symbol, ['-'], 0⟩, ⟨.identifier, "ans".toList, 1⟩] :=
    rfl
  have hans : Spelled [⟨.identifier, "ans".toList, 1⟩] (gap ++ ("ans".toList ++ gap)) :=
    .token hgap (fun c hc => hgap c (List.mem_of_mem_head? hc)) (.blanks hgap)
  have hwide : Spelled [⟨.symbol, ['-'], 0⟩, ⟨.identifier, "ans".toList, 1⟩] wide :=
    .token hgap (head_blanks hgap hne _) hans
  obtain ⟨hacross, hevaluate⟩ := tokenize_across_blanks
  have hpoint := (hacross "ans 12".toList gap ".5".toList hne hgap).2 _ rfl
  have hminus := (hacross "ans 12".toList gap " -7".toList hne hgap).2 _ rfl
  exact ⟨(hacross _ gap _ hne hgap).1 _ rfl, hpoint.1 ⟨'.', 0⟩ rfl,
    hminus.2 [⟨.symbol, ['-'], 1⟩, ⟨.number, ['7'], 2⟩] rfl, hevaluate _ _ _ _ _ hline hwide⟩

end DeskCalculator
