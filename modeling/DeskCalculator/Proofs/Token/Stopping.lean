import DeskCalculator.Proofs.Token.Joining

/-!
# Where the reading of a line stops

A line without tokens is read up to a character with which no lexeme begins.  What was read so far
is a line with tokens, and whatever stands behind that character does not matter, with one
exception: a point and a digit behind the last number would have been its fraction.

* `Lexeme.munch?_eq_none_iff` — only the first character decides whether a lexeme begins.
* `Scans.exists_front` — what was read can be read again with another rest, if that does not
  continue the token that ends there.
* `Stops` — a line is read to such a character; `tokenize_eq_error_iff` says that this is how lines
  fail.
* `Stops.tokenize_front_eq_error_iff` — which lines with the same front fail at the same place.
* `stops_behind_longest_prefix` — all of this, of a line that fails.
-/

namespace DeskCalculator

variable {c : Char} {s s' line front rest : List Char} {column column' : Nat} {t : Token}
  {tokens : List Token} {e : LexFailure}

/-! ## Characters with which nothing begins -/

/-- A character with which no lexeme begins. -/
def isStray (c : Char) : Bool := !(isBlank c || isDigit c || isWordStart c || isSymbolChar c)

/-- Only the first character decides whether a lexeme begins. -/
theorem Lexeme.munch?_eq_none_iff : munch? (c :: s) = none ↔ isStray c = true := by
  rw [munch?, isStray]
  split_ifs with hblank hdigit hword hsymbol <;> simp [*]

theorem not_of_isStray (h : isStray c = true) : isDigit c = false ∧ isWordChar c = false := by
  simp only [isStray, Bool.not_eq_true', Bool.or_eq_false_iff] at h
  obtain ⟨⟨⟨-, hdigit⟩, hword⟩, -⟩ := h
  exact ⟨hdigit, by rw [isWordChar, hword, hdigit]; rfl⟩

/-- A number without a fraction. -/
def Token.LacksFraction (t : Token) : Prop := t.kind = .number ∧ '.' ∉ t.text

/-- A token in front of such a character could only be longer if the character is the point of its
fraction. -/
theorem isMaximal_stray_iff (hc : isStray c = true) :
    IsMaximal t (c :: s) ↔ ¬ (c = '.' ∧ t.LacksFraction ∧ ∃ d ∈ s.head?, isDigit d = true) := by
  obtain ⟨hdigit, hword⟩ := not_of_isStray hc
  obtain ⟨kind, text, position⟩ := t
  cases kind with
  | number =>
    simp only [IsMaximal, Token.LacksFraction, List.head?_cons, List.getElem?_cons_succ,
      ← List.head?_eq_getElem?]
    simpa [hdigit] using Imp.swap
  | identifier => simp [IsMaximal, Token.LacksFraction, hword]
  | symbol => simp [IsMaximal, Token.LacksFraction]

/-- Unless it is a point, the first character of what follows decides alone whether a token could
be longer. -/
theorem isMaximal_cons_congr (hc : c ≠ '.') : IsMaximal t (c :: s) ↔ IsMaximal t (c :: s') := by
  obtain ⟨kind, text, position⟩ := t
  cases kind <;> simp [IsMaximal, hc]

/-! ## Reading with another rest -/

/-- What was read can be read again with another rest, if that does not continue the token that ends
there. -/
theorem Scans.exists_front (h : Scans column s tokens column' s') :
    ∃ front, s = front ++ s' ∧ column' = column + front.length ∧
      ∀ rest, (∀ t ∈ tokens, t.stop = column' → IsMaximal t rest) →
        Scans column (front ++ rest) tokens column' rest := by
  induction h with
  | done => exact ⟨[], rfl, rfl, fun _ _ => .done⟩
  | @blank column column' c s s' tokens hc _ ih =>
    obtain ⟨front, rfl, rfl, hfront⟩ := ih
    refine ⟨c :: front, rfl, by rw [List.length_cons]; omega, fun rest hrest => ?_⟩
    exact .blank hc (hfront rest hrest)
  | @token column' t s s' tokens haccepts hmax _ ih =>
    obtain ⟨front, rfl, rfl, hfront⟩ := ih
    refine ⟨t.text ++ front, (List.append_assoc _ _ _).symm,
      by rw [Token.stop, List.length_append]; omega, fun rest hrest => ?_⟩
    obtain ⟨ht, htokens⟩ := List.forall_mem_cons.1 hrest
    have hmaximal : IsMaximal t (front ++ rest) := by
      cases front with
      | nil => exact ht rfl
      | cons d front =>
        -- behind a token stands a blank or another token, so the rest is too far away
        have hpoint := (hfront [] fun _ _ _ => isMaximal_nil).head_ne_point
        have hd : d ≠ '.' := by
          rintro rfl
          exact hpoint rfl
        exact (isMaximal_cons_congr hd).1 hmax
    rw [List.append_assoc]
    exact .token haccepts hmaximal (hfront rest htokens)

/-- The token that ends where the reading ends could not be longer. -/
theorem Scans.isMaximal_of_stop_eq (h : Scans column s tokens column' s') :
    ∀ t ∈ tokens, t.stop = column' → IsMaximal t s' := by
  induction h with
  | done => simp
  | blank _ _ ih => exact ih
  | @token column' t s s' tokens _ hmax hscans ih =>
    refine List.forall_mem_cons.2 ⟨fun hstop => ?_, ih⟩
    obtain ⟨front, rfl, hcolumn, -⟩ := hscans.exists_front
    have hnil : front = [] := List.length_eq_zero_iff.1 (by omega)
    rwa [hnil] at hmax

/-! ## Lines that fail -/

/-- A line is read up to a character with which nothing begins. -/
structure Stops (front : List Char) (tokens : List Token) (c : Char) (rest : List Char) : Prop where
  scans : Scans 0 (front ++ c :: rest) tokens front.length (c :: rest)
  stray : isStray c = true

/-- A line fails exactly if it is read up to such a character, and there. -/
theorem tokenize_eq_error_iff :
    tokenize line = .error e ↔
      ∃ front tokens rest, line = front ++ e.found :: rest ∧ e.column = front.length ∧
        Stops front tokens e.found rest := by
  constructor
  · intro h
    obtain ⟨tokens, column, s, hscans, hend⟩ := exists_scans 0 line
    cases s with
    | nil =>
      rw [tokenize_eq_ok_iff.2 ⟨column, hscans⟩] at h
      cases h
    | cons c rest =>
      rw [tokenize, hscans.tokenizeFrom_eq, tokenizeFrom_of_none hend] at h
      cases h
      obtain ⟨front, rfl, hcolumn, -⟩ := hscans.exists_front
      rw [Nat.zero_add] at hcolumn
      subst hcolumn
      exact ⟨front, tokens, rest, rfl, rfl, hscans, Lexeme.munch?_eq_none_iff.1 hend⟩
  · rintro ⟨front, tokens, rest, rfl, hcolumn, hscans, hstray⟩
    rw [tokenize, hscans.tokenizeFrom_eq,
      tokenizeFrom_of_none (Lexeme.munch?_eq_none_iff.2 hstray), ← hcolumn]

namespace Stops

/-- What was read so far can be read with another rest behind it. -/
theorem scans_front (h : Stops front tokens c rest) (s : List Char)
    (hs : ∀ t ∈ tokens, t.stop = front.length → IsMaximal t s) :
    Scans 0 (front ++ s) tokens front.length s := by
  obtain ⟨front', hsplit, hlength, hscans⟩ := h.scans.exists_front
  rw [Nat.zero_add] at hlength
  rw [(List.append_inj hsplit hlength).1]
  rw [← hlength]
  exact hscans s hs

/-- What was read so far is a line with tokens. -/
theorem tokenize_front (h : Stops front tokens c rest) : tokenize front = .ok tokens := by
  have hscans := h.scans_front [] fun _ _ _ => isMaximal_nil
  rw [List.append_nil] at hscans
  exact tokenize_eq_ok_iff.2 ⟨_, hscans⟩

/-- A line with the same front fails at the same place, unless it has the fraction there that the
last number of the front lacks. -/
theorem tokenize_front_eq_error_iff (h : Stops front tokens c rest) (s : List Char) :
    tokenize (front ++ c :: s) = .error ⟨c, front.length⟩ ↔
      ¬ (c = '.' ∧ (∃ t ∈ tokens, t.LacksFraction ∧ t.stop = front.length) ∧
        ∃ d ∈ s.head?, isDigit d = true) := by
  constructor
  · rintro hfails ⟨hc, ⟨t, ht, hlacks, hstop⟩, hdigit⟩
    obtain ⟨front', tokens', s', hsplit, hlength, hstops⟩ := tokenize_eq_error_iff.1 hfails
    obtain ⟨rfl, hrest⟩ := List.append_inj hsplit hlength
    cases hrest
    -- the front has the same tokens both times, and its last number could not be longer
    have htokens := hstops.tokenize_front
    rw [h.tokenize_front] at htokens
    cases htokens
    have hmaximal := hstops.scans.isMaximal_of_stop_eq t ht hstop
    exact (isMaximal_stray_iff h.stray).1 hmaximal ⟨hc, hlacks, hdigit⟩
  · intro hnone
    refine tokenize_eq_error_iff.2 ⟨front, tokens, s, rfl, rfl, h.scans_front _ ?_, h.stray⟩
    intro t ht hstop
    refine (isMaximal_stray_iff h.stray).2 ?_
    rintro ⟨hc, hlacks, hdigit⟩
    exact hnone ⟨hc, ⟨t, ht, hlacks, hstop⟩, hdigit⟩

end Stops

/-- A line that fails does so with another rest, if that begins with no digit but the one that was
there. -/
theorem tokenize_front_eq_error (h : tokenize (front ++ c :: rest) = .error ⟨c, front.length⟩)
    (hs : ∀ d ∈ s.head?, isDigit d = true → d ∈ rest.head?) :
    tokenize (front ++ c :: s) = .error ⟨c, front.length⟩ := by
  obtain ⟨front', tokens, rest', hsplit, hlength, hstops⟩ := tokenize_eq_error_iff.1 h
  obtain ⟨rfl, hrest⟩ := List.append_inj hsplit hlength
  cases hrest
  rw [hstops.tokenize_front_eq_error_iff] at h ⊢
  rintro ⟨hc, hlacks, d, hd, hdigit⟩
  exact h ⟨hc, hlacks, d, hs d hd hdigit, hdigit⟩

/-- So it does whatever is put behind it, unless that begins with a digit. -/
theorem tokenize_append_of_error (h : tokenize line = .error e)
    (hs : ∀ d ∈ s.head?, isDigit d = false) : tokenize (line ++ s) = .error e := by
  obtain ⟨front, tokens, rest, rfl, hcolumn, -⟩ := tokenize_eq_error_iff.1 h
  obtain ⟨c, column⟩ := e
  subst hcolumn
  rw [List.append_assoc, List.cons_append]
  refine tokenize_front_eq_error h fun d hd hdigit => ?_
  cases rest with
  | nil =>
    rw [hs d hd] at hdigit
    cases hdigit
  | cons d' rest => exact hd

/-- So does each part of it that reaches behind the character where it fails. -/
theorem tokenize_take_of_error (h : tokenize line = .error e) {k : Nat} (hk : e.column < k) :
    tokenize (line.take k) = .error e := by
  obtain ⟨front, tokens, rest, rfl, hcolumn, -⟩ := tokenize_eq_error_iff.1 h
  obtain ⟨c, column⟩ := e
  subst hcolumn
  have hlt : front.length < k := hk
  obtain ⟨n, rfl⟩ : ∃ n, k = front.length + (n + 1) := ⟨k - front.length - 1, by omega⟩
  rw [List.take_length_add_append, List.take_succ_cons]
  refine tokenize_front_eq_error h fun d hd _ => ?_
  rw [List.head?_take] at hd
  split at hd
  · cases hd
  · exact hd

/-- **The reading of a line stops behind its longest part that has tokens.**  A line that fails does
so at one of its characters.  What stands in front of that character is a line with tokens, and each
longer part of the line fails at the same character.  So does every line that goes on in any other
way behind the character, unless the character is a point, stands behind a number without a
fraction, and is now followed by a digit. -/
theorem stops_behind_longest_prefix (h : tokenize s = .error e) :
    s[e.column]? = some e.found ∧
      ∃ tokens, tokenize (s.take e.column) = .ok tokens ∧
        (∀ k, e.column < k → tokenize (s.take k) = .error e) ∧
        ∀ rest, tokenize (s.take (e.column + 1) ++ rest) = .error e ↔
          ¬ (e.found = '.' ∧ (∃ t ∈ tokens, t.LacksFraction ∧ t.stop = e.column) ∧
            ∃ d ∈ rest.head?, isDigit d = true) := by
  have hlonger : ∀ k, e.column < k → tokenize (s.take k) = .error e :=
    fun k hk => tokenize_take_of_error h hk
  obtain ⟨front, tokens, behind, rfl, hcolumn, hstops⟩ := tokenize_eq_error_iff.1 h
  obtain ⟨c, column⟩ := e
  subst hcolumn
  refine ⟨by simp, tokens, ?_, hlonger, fun rest => ?_⟩
  · rw [List.take_left]
    exact hstops.tokenize_front
  · have hfront : (front ++ c :: behind).take (front.length + 1) ++ rest = front ++ c :: rest := by
      rw [List.take_length_add_append, List.append_assoc]
      rfl
    rw [hfront]
    exact hstops.tokenize_front_eq_error_iff rest

/-- The theorem at `ans * 12.x`, which fails at its point: so it does with `3$` behind a blank, but
with `3$` at once the point is read and the next one that fails is the dollar sign. -/
theorem stops_behind_longest_prefix_point :
    let s := "ans * 12.x".toList
    let e : LexFailure := ⟨'.', 8⟩
    let tokens : List Token :=
      [⟨.identifier, "ans".toList, 0⟩, ⟨.symbol, ['*'], 4⟩, ⟨.number, "12".toList, 6⟩]
    tokenize s = .error e ∧ s[e.column]? = some e.found ∧
      tokenize (s.take 8) = .ok tokens ∧ tokenize (s.take 9) = .error e ∧
      tokenize (s.take 9 ++ " 3$".toList) = .error e ∧
      tokenize (s.take 9 ++ "3$".toList) = .error ⟨'$', 10⟩ ∧
      tokenize (s.take 9 ++ "3$".toList) ≠ .error e := by
  intro s e tokens
  have hfails : tokenize s = .error e := rfl
  have hfront : tokenize (s.take 8) = .ok tokens := rfl
  have hnumber : (⟨.number, "12".toList, 6⟩ : Token).LacksFraction := ⟨rfl, by decide⟩
  obtain ⟨hfound, found, hfound', hlonger, hiff⟩ := stops_behind_longest_prefix hfails
  have htokens : found = tokens := Except.ok.inj (hfound'.symm.trans hfront)
  subst htokens
  refine ⟨hfails, hfound, hfound', hlonger 9 (by decide), (hiff _).2 ?_, rfl, fun hsame => ?_⟩
  · rintro ⟨-, -, d, hd, hdigit⟩
    cases hd
    exact absurd hdigit (by decide)
  · have hlast : ∃ t ∈ tokens, t.LacksFraction ∧ t.stop = e.column :=
      ⟨_, .tail _ (.tail _ (.head _)), hnumber, rfl⟩
    exact (hiff _).1 hsame ⟨rfl, hlast, '3', rfl, by decide⟩

end DeskCalculator
