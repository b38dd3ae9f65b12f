import DeskCalculator.Operand
import DeskCalculator.Text.Pieces
import DeskCalculator.Token.Segmentation
import Mathlib.Data.List.TakeWhile

/-!
# What is read at the front of a line

Which lexeme is taken off a text is decided by its first character, and how far the lexeme goes
by what follows.  So it can be said with the rest of the text present, and lines can be put
together from pieces that were read.

* `Lexeme.munch?_text` — a text of a class that the rest does not continue is the lexeme at the
  front, and by `Lexeme.exists_of_munch?` whatever is taken off as a token is such a text.
* `Scans` — what is read from one place of a line to another, said without `tokenize`.
* `tokenize_eq_ok_iff` — the tokens of a line are those that are read from its start to its end;
  so they are texts of their classes, and no more than the line has characters.
-/

namespace DeskCalculator

variable {c : Char} {s w rest : List Char} {t : Token}

/-! ## The first character -/

theorem not_isBlank_of_isDigit (h : isDigit c = true) : isBlank c = false := by
  simp only [isDigit, Bool.and_eq_true, decide_eq_true_eq] at h
  simp only [isBlank, isWhiteSpace, isInformationSeparator, Bool.or_eq_false_iff,
    Bool.and_eq_false_iff, decide_eq_false_iff_not, beq_eq_false_iff_ne]
  omega

theorem not_of_isWordStart (h : isWordStart c = true) : isBlank c = false ∧ isDigit c = false := by
  simp only [isWordStart, isLetter, Bool.or_eq_true, Bool.and_eq_true, decide_eq_true_eq,
    beq_iff_eq] at h
  rcases h with hletter | rfl
  · simp only [isBlank, isDigit, isWhiteSpace, isInformationSeparator, Bool.or_eq_false_iff,
      Bool.and_eq_false_iff, decide_eq_false_iff_not, beq_eq_false_iff_ne]
    omega
  · decide

/-- A blank begins neither a number nor a word. -/
theorem not_of_isBlank (h : isBlank c = true) : isDigit c = false ∧ isWordStart c = false := by
  constructor <;> rw [← Bool.not_eq_true]
  · intro hdigit
    rw [not_isBlank_of_isDigit hdigit] at h
    cases h
  · intro hword
    rw [(not_of_isWordStart hword).1] at h
    cases h

theorem not_of_isSymbolChar (h : isSymbolChar c = true) :
    isBlank c = false ∧ isDigit c = false ∧ isWordStart c = false := by
  simp only [isSymbolChar, Bool.or_eq_true, beq_iff_eq] at h
  rcases h with ((((rfl | rfl) | rfl) | rfl) | rfl) | rfl <;> decide

namespace Lexeme

theorem munch?_blank (h : isBlank c = true) (rest : List Char) :
    munch? (c :: rest) = some ⟨none, ((c :: rest).takeWhile isBlank).length⟩ := by
  rw [munch?, if_pos h]

theorem munch?_digit (h : isDigit c = true) :
    munch? (c :: rest) = some ⟨some .number, numberLength (c :: rest)⟩ := by
  rw [munch?, if_neg (by simp [not_isBlank_of_isDigit h]), if_pos h]

theorem munch?_wordStart (h : isWordStart c = true) :
    munch? (c :: rest) = some ⟨some .identifier, ((c :: rest).takeWhile isWordChar).length⟩ := by
  obtain ⟨hblank, hdigit⟩ := not_of_isWordStart h
  rw [munch?, if_neg (by simp [hblank]), if_neg (by simp [hdigit]), if_pos h]

theorem munch?_symbolChar (h : isSymbolChar c = true) :
    munch? (c :: rest) = some ⟨some .symbol, 1⟩ := by
  obtain ⟨hblank, hdigit, hword⟩ := not_of_isSymbolChar h
  rw [munch?, if_neg (by simp [hblank]), if_neg (by simp [hdigit]), if_neg (by simp [hword]),
    if_pos h]

end Lexeme

/-! ## Numbers -/

/-- A number is digits, and behind a point there may be digits again. -/
theorem isNumber_iff :
    isNumber s = true ↔ ∃ whole tail, s = whole ++ tail ∧ whole ≠ [] ∧
      (∀ c ∈ whole, isDigit c = true) ∧
      (tail = [] ∨ ∃ fraction, tail = '.' :: fraction ∧ fraction ≠ [] ∧
        ∀ c ∈ fraction, isDigit c = true) := by
  constructor
  · intro h
    refine ⟨s.takeWhile isDigit, s.dropWhile isDigit, List.takeWhile_append_dropWhile.symm, ?_,
      fun c hc => List.mem_takeWhile_imp hc, ?_⟩
    · rintro hnil
      simp [isNumber, hnil] at h
    · unfold isNumber at h
      cases htail : s.dropWhile isDigit with
      | nil => exact .inl rfl
      | cons point fraction =>
        simp only [htail, Bool.and_eq_true, beq_iff_eq, Bool.not_eq_true', List.all_eq_true] at h
        obtain ⟨-, ⟨rfl, hne⟩, hdigits⟩ := h
        exact .inr ⟨fraction, rfl, by simpa using hne, hdigits⟩
  · rintro ⟨whole, tail, rfl, hne, hwhole, htail⟩
    have hhead : ∀ c ∈ tail.head?, isDigit c = false := by
      rcases htail with rfl | ⟨fraction, rfl, -, -⟩
      · simp
      · rintro c hc
        cases hc
        decide
    obtain ⟨htake, hdrop⟩ := takeWhile_dropWhile_append hwhole hhead
    unfold isNumber
    rw [htake, hdrop]
    rcases htail with rfl | ⟨fraction, rfl, hfraction, hdigits⟩
    · simpa using hne
    · simpa [hne, hfraction] using hdigits

/-- A number is taken off as far as it goes. -/
theorem numberLength_text (h : isNumber w = true) {position : Nat}
    (hmax : IsMaximal ⟨.number, w, position⟩ rest) : numberLength (w ++ rest) = w.length := by
  obtain ⟨whole, tail, rfl, hne, hwhole, htail⟩ := isNumber_iff.1 h
  obtain ⟨hdigit, hpoint⟩ := hmax
  rcases htail with rfl | ⟨fraction, rfl, hfraction, hdigits⟩
  · -- without a fraction the rest must not begin one
    rw [List.append_nil] at hpoint ⊢
    obtain ⟨htake, hdrop⟩ := takeWhile_dropWhile_append hwhole hdigit
    unfold numberLength
    rw [htake, hdrop]
    split
    · rename_i behind
      have hnot : whole.contains '.' = false := by
        rw [← Bool.not_eq_true, List.contains_iff_mem]
        exact fun hmem => absurd (hwhole _ hmem) (by decide)
      have hnone : behind.takeWhile isDigit = [] := by
        cases behind with
        | nil => rfl
        | cons d behind =>
          have hd : ¬ isDigit d = true := by simp [hpoint hnot rfl d rfl]
          rw [List.takeWhile_cons_of_neg hd]
      simp [hnone]
    · rfl
  · obtain ⟨htake, hdrop⟩ := takeWhile_dropWhile_append (m := '.' :: (fraction ++ rest)) hwhole
      (by rintro c hc; cases hc; decide)
    obtain ⟨hinner, -⟩ := takeWhile_dropWhile_append hdigits hdigit
    have hlength : fraction.length ≠ 0 := by simpa using hfraction
    unfold numberLength
    rw [List.append_assoc, List.cons_append, htake, hdrop]
    simp only [hinner, if_neg hlength, List.length_append, List.length_cons]
    omega

/-- A text that begins with a digit begins with a number that the rest does not continue. -/
theorem exists_number_text (h : isDigit c = true) (s : List Char) :
    ∃ w rest, c :: s = w ++ rest ∧ isNumber w = true ∧
      ∀ position, IsMaximal ⟨.number, w, position⟩ rest := by
  obtain ⟨whole, hwhole⟩ : ∃ whole, whole = (c :: s).takeWhile isDigit := ⟨_, rfl⟩
  obtain ⟨tail, htail⟩ : ∃ tail, tail = (c :: s).dropWhile isDigit := ⟨_, rfl⟩
  have hsplit : c :: s = whole ++ tail := by
    rw [hwhole, htail, List.takeWhile_append_dropWhile]
  have hne : whole ≠ [] := by
    rw [hwhole, List.takeWhile_cons_of_pos h]
    exact List.cons_ne_nil _ _
  have hdigits : ∀ d ∈ whole, isDigit d = true := fun d hd =>
    List.mem_takeWhile_imp (by rwa [← hwhole])
  have hstop : ∀ d ∈ tail.head?, isDigit d = false := by
    rw [htail]
    exact not_of_head_dropWhile isDigit (c :: s)
  by_cases hfraction : ∃ d behind, tail = '.' :: d :: behind ∧ isDigit d = true
  · obtain ⟨d, behind, hbehind, hd⟩ := hfraction
    refine ⟨whole ++ '.' :: (d :: behind).takeWhile isDigit, (d :: behind).dropWhile isDigit,
      ?_, ?_, fun position => ?_⟩
    · rw [hsplit, hbehind, List.append_assoc, List.cons_append, List.takeWhile_append_dropWhile]
    · refine isNumber_iff.2 ⟨whole, _, rfl, hne, hdigits, .inr ⟨_, rfl, ?_, ?_⟩⟩
      · rw [List.takeWhile_cons_of_pos hd]
        exact List.cons_ne_nil _ _
      · exact fun d hd => List.mem_takeWhile_imp hd
    · refine ⟨not_of_head_dropWhile isDigit _, fun hnone => ?_⟩
      simp at hnone
  · refine ⟨whole, tail, hsplit, ?_, fun position => ⟨hstop, fun _ hpoint d hd => ?_⟩⟩
    · exact isNumber_iff.2 ⟨whole, [], (List.append_nil _).symm, hne, hdigits, .inl rfl⟩
    · -- a digit behind the point would begin a fraction
      rw [← Bool.not_eq_true]
      intro hdigit
      match tail, hpoint, hd with
      | point :: e :: behind, hpoint, hd =>
        cases hpoint
        cases hd
        exact hfraction ⟨d, behind, rfl, hdigit⟩

/-! ## The lexeme at the front -/

/-- The text of a token is not empty. -/
theorem text_ne_nil_of_accepts (h : t.kind.accepts t.text = true) : t.text ≠ [] := by
  intro hnil
  rw [hnil] at h
  cases hkind : t.kind <;> rw [hkind] at h <;> cases h

namespace Lexeme

/-- A text of a class that the rest does not continue is the lexeme at the front. -/
theorem munch?_text (h : t.kind.accepts t.text = true) (hmax : IsMaximal t rest) :
    munch? (t.text ++ rest) = some ⟨some t.kind, t.text.length⟩ := by
  obtain ⟨kind, text, position⟩ := t
  cases kind with
  | number =>
    obtain ⟨c, s, rfl, hc⟩ := head_of_isNumber h
    rw [List.cons_append, munch?_digit hc, ← List.cons_append, numberLength_text h hmax]
  | identifier =>
    cases text with
    | nil => cases h
    | cons c s =>
      have hboth : isWordStart c = true ∧ s.all isWordChar = true := by
        simpa [TokenKind.accepts, isIdentifier] using h
      have hall : ∀ d ∈ c :: s, isWordChar d = true := by
        simpa [isWordChar, hboth.1] using hboth.2
      rw [List.cons_append, munch?_wordStart hboth.1, ← List.cons_append,
        (takeWhile_dropWhile_append hall hmax).1]
  | symbol =>
    match text, h with
    | [c], h => exact munch?_symbolChar h

/-- Whatever is taken off as a token is a text of its class that the rest does not continue. -/
theorem exists_of_munch? {kind : TokenKind} {n : Nat} (h : munch? s = some ⟨some kind, n⟩) :
    ∃ w rest, s = w ++ rest ∧ w.length = n ∧ kind.accepts w = true ∧
      ∀ position, IsMaximal ⟨kind, w, position⟩ rest := by
  cases s with
  | nil => cases h
  | cons c s =>
    by_cases hblank : isBlank c = true
    · rw [munch?_blank hblank] at h
      cases h
    by_cases hdigit : isDigit c = true
    · rw [munch?_digit hdigit] at h
      cases h
      obtain ⟨w, rest, hsplit, hnumber, hmax⟩ := exists_number_text hdigit s
      rw [hsplit]
      exact ⟨w, rest, rfl, (numberLength_text hnumber (hmax 0)).symm, hnumber, hmax⟩
    by_cases hword : isWordStart c = true
    · rw [munch?_wordStart hword] at h
      cases h
      refine ⟨(c :: s).takeWhile isWordChar, (c :: s).dropWhile isWordChar,
        List.takeWhile_append_dropWhile.symm, rfl, ?_, fun position => ?_⟩
      · have hc : isWordChar c = true := by simp [isWordChar, hword]
        rw [List.takeWhile_cons_of_pos hc]
        simp [TokenKind.accepts, isIdentifier, hword]
      · exact not_of_head_dropWhile isWordChar (c :: s)
    by_cases hsymbol : isSymbolChar c = true
    · rw [munch?_symbolChar hsymbol] at h
      cases h
      exact ⟨[c], s, rfl, rfl, hsymbol, fun _ => trivial⟩
    · rw [munch?, if_neg hblank, if_neg hdigit, if_neg hword, if_neg hsymbol] at h
      cases h

/-- What is passed over begins with a blank. -/
theorem exists_blank_of_munch? {n : Nat} (h : munch? s = some ⟨none, n⟩) :
    ∃ c rest, s = c :: rest ∧ isBlank c = true := by
  cases s with
  | nil => cases h
  | cons c rest =>
    by_cases hblank : isBlank c = true
    · exact ⟨c, rest, rfl, hblank⟩
    · rw [munch?, if_neg hblank] at h
      split_ifs at h <;> cases h

end Lexeme

/-! ## Reading on -/

/-- What is read from one place of a line to another: blanks, and tokens that what follows them
does not continue.  A place is a column with the text from there on. -/
inductive Scans : Nat → List Char → List Token → Nat → List Char → Prop
  /-- Nothing is read. -/
  | done {column : Nat} {s : List Char} : Scans column s [] column s
  /-- A blank is passed over. -/
  | blank {column column' : Nat} {c : Char} {s s' : List Char} {tokens : List Token} :
      isBlank c = true → Scans (column + 1) s tokens column' s' →
      Scans column (c :: s) tokens column' s'
  /-- A token is taken off. -/
  | token {column' : Nat} {t : Token} {s s' : List Char} {tokens : List Token} :
      t.kind.accepts t.text = true → IsMaximal t s → Scans t.stop s tokens column' s' →
      Scans t.position (t.text ++ s) (t :: tokens) column' s'

variable {column column' column'' : Nat} {s' s'' : List Char} {tokens tokens' found : List Token}

theorem Scans.trans (h : Scans column s tokens column' s')
    (h' : Scans column' s' tokens' column'' s'') :
    Scans column s (tokens ++ tokens') column'' s'' := by
  induction h with
  | done => exact h'
  | blank hc _ ih => exact .blank hc (ih h')
  | token haccepts hmax _ ih => exact .token haccepts hmax (ih h')

/-- One token is read. -/
theorem Scans.single (haccepts : t.kind.accepts t.text = true) (hmax : IsMaximal t rest) :
    Scans t.position (t.text ++ rest) [t] t.stop rest :=
  .token haccepts hmax .done

/-- Blanks are passed over. -/
theorem scans_blanks (h : ∀ c ∈ w, isBlank c = true) (column : Nat) (rest : List Char) :
    Scans column (w ++ rest) [] (column + w.length) rest := by
  induction w generalizing column with
  | nil => exact .done
  | cons c w ih =>
    obtain ⟨hc, hw⟩ := List.forall_mem_cons.1 h
    have hrest := ih hw (column + 1)
    rw [Nat.add_assoc, Nat.add_comm 1] at hrest
    exact .blank hc hrest

/-- The tokens that are read are texts of their classes. -/
theorem Scans.accepts (h : Scans column s tokens column' s') :
    ∀ t ∈ tokens, t.kind.accepts t.text = true := by
  induction h with
  | done => simp
  | blank _ _ ih => exact ih
  | token haccepts _ _ ih => exact List.forall_mem_cons.2 ⟨haccepts, ih⟩

/-- A token takes at least one character. -/
theorem Scans.length_le (h : Scans column s tokens column' s') :
    tokens.length + s'.length ≤ s.length := by
  induction h with
  | done => simp
  | blank _ _ ih =>
    rw [List.length_cons]
    omega
  | @token _ t s _ _ haccepts _ _ ih =>
    have hpos := List.length_pos_iff.2 (text_ne_nil_of_accepts haccepts)
    rw [List.length_cons, List.length_append]
    omega

/-! ### What the tokenizer does with it -/

section Tokenize

variable {skip length : Nat} {kind : TokenKind}

theorem tokenizeFrom_nil : tokenizeFrom found column skip [] = .ok found.reverse := rfl

theorem tokenizeFrom_succ :
    tokenizeFrom found column (skip + 1) (c :: rest) =
      tokenizeFrom found (column + 1) skip rest := rfl

theorem tokenizeFrom_zero :
    tokenizeFrom found column 0 (c :: rest) =
      match Lexeme.munch? (c :: rest) with
      | none => .error ⟨c, column⟩
      | some ⟨none, length⟩ => tokenizeFrom found (column + 1) (length - 1) rest
      | some ⟨some kind, length⟩ =>
        tokenizeFrom (⟨kind, (c :: rest).take length, column⟩ :: found) (column + 1) (length - 1)
          rest := by
  -- a proof by `rfl`, or by rewriting with the definition, would open all character classes
  exact Eq.refl _

theorem tokenizeFrom_of_none (h : Lexeme.munch? (c :: rest) = none) :
    tokenizeFrom found column 0 (c :: rest) = .error ⟨c, column⟩ := by
  rw [tokenizeFrom_zero, h]

theorem tokenizeFrom_of_blanks (h : Lexeme.munch? (c :: rest) = some ⟨none, length⟩) :
    tokenizeFrom found column 0 (c :: rest) =
      tokenizeFrom found (column + 1) (length - 1) rest := by
  rw [tokenizeFrom_zero, h]

theorem tokenizeFrom_of_lexeme (h : Lexeme.munch? (c :: rest) = some ⟨some kind, length⟩) :
    tokenizeFrom found column 0 (c :: rest) =
      tokenizeFrom (⟨kind, (c :: rest).take length, column⟩ :: found) (column + 1) (length - 1)
        rest := by
  rw [tokenizeFrom_zero, h]

end Tokenize

/-- Characters that belong to a lexeme are skipped. -/
theorem tokenizeFrom_skip (found : List Token) (column : Nat) (w rest : List Char) :
    tokenizeFrom found column w.length (w ++ rest) =
      tokenizeFrom found (column + w.length) 0 rest := by
  induction w generalizing column with
  | nil => rfl
  | cons c w ih =>
    rw [List.cons_append, List.length_cons, tokenizeFrom_succ, ih, Nat.add_right_comm,
      Nat.add_assoc]

/-- A run of blanks can be skipped or read. -/
theorem tokenizeFrom_blanks (found : List Token) (column : Nat) (s : List Char) :
    tokenizeFrom found column (s.takeWhile isBlank).length s = tokenizeFrom found column 0 s := by
  cases s with
  | nil => rfl
  | cons c s =>
    by_cases hc : isBlank c = true
    · have hmunch := Lexeme.munch?_blank hc s
      rw [List.takeWhile_cons_of_pos hc, List.length_cons] at hmunch ⊢
      rw [tokenizeFrom_succ, tokenizeFrom_of_blanks hmunch, Nat.add_sub_cancel]
    · rw [List.takeWhile_cons_of_neg hc, List.length_nil]

theorem tokenizeFrom_blank (hc : isBlank c = true) :
    tokenizeFrom found column 0 (c :: s) = tokenizeFrom found (column + 1) 0 s := by
  have hmunch := Lexeme.munch?_blank hc s
  rw [List.takeWhile_cons_of_pos hc, List.length_cons] at hmunch
  rw [tokenizeFrom_of_blanks hmunch, Nat.add_sub_cancel, tokenizeFrom_blanks]

theorem tokenizeFrom_token (haccepts : t.kind.accepts t.text = true) (hmax : IsMaximal t rest) :
    tokenizeFrom found t.position 0 (t.text ++ rest) = tokenizeFrom (t :: found) t.stop 0 rest := by
  have hmunch := Lexeme.munch?_text haccepts hmax
  have hne := text_ne_nil_of_accepts haccepts
  obtain ⟨kind, text, position⟩ := t
  cases text with
  | nil => exact absurd rfl hne
  | cons c w =>
    have htake : (c :: (w ++ rest)).take (c :: w).length = c :: w := by
      rw [← List.cons_append, List.take_left]
    have hstop : (⟨kind, c :: w, position⟩ : Token).stop = position + 1 + w.length := by
      show position + (w.length + 1) = position + 1 + w.length
      omega
    rw [List.cons_append] at hmunch ⊢
    rw [tokenizeFrom_of_lexeme hmunch, htake, List.length_cons, Nat.add_sub_cancel,
      tokenizeFrom_skip, hstop]

/-- What is read is what the tokenizer finds. -/
theorem Scans.tokenizeFrom_eq (h : Scans column s tokens column' s') (found : List Token) :
    tokenizeFrom found column 0 s = tokenizeFrom (tokens.reverse ++ found) column' 0 s' := by
  induction h generalizing found with
  | done => rfl
  | blank hc _ ih => rw [tokenizeFrom_blank hc, ih]
  | token haccepts hmax _ ih =>
    rw [tokenizeFrom_token haccepts hmax, ih, List.reverse_cons, List.append_assoc]
    rfl

/-- A line can be read until no lexeme begins. -/
theorem exists_scans (column : Nat) (s : List Char) :
    ∃ tokens column' s', Scans column s tokens column' s' ∧ Lexeme.munch? s' = none := by
  induction hn : s.length using Nat.strong_induction_on generalizing column s with
  | _ n ih =>
    cases hmunch : Lexeme.munch? s with
    | none => exact ⟨[], column, s, .done, hmunch⟩
    | some lexeme =>
      obtain ⟨kind?, length⟩ := lexeme
      cases kind? with
      | some kind =>
        obtain ⟨w, rest, rfl, -, haccepts, hmax⟩ := Lexeme.exists_of_munch? hmunch
        have htoken : (⟨kind, w, column⟩ : Token).kind.accepts w = true := haccepts
        have hpos := List.length_pos_iff.2 (text_ne_nil_of_accepts htoken)
        obtain ⟨tokens, column', s', hscans, hend⟩ :=
          ih rest.length (by rw [← hn, List.length_append]; exact Nat.lt_add_of_pos_left hpos)
            (column + w.length) rest rfl
        exact ⟨⟨kind, w, column⟩ :: tokens, column', s',
          .token (t := ⟨kind, w, column⟩) htoken (hmax column) hscans, hend⟩
      | none =>
        obtain ⟨c, rest, rfl, hc⟩ := Lexeme.exists_blank_of_munch? hmunch
        obtain ⟨tokens, column', s', hscans, hend⟩ :=
          ih rest.length (by rw [← hn, List.length_cons]; omega) (column + 1) rest rfl
        exact ⟨tokens, column', s', .blank hc hscans, hend⟩

/-- The tokens of a line are those that are read from its start to its end. -/
theorem tokenize_eq_ok_iff {line : List Char} :
    tokenize line = .ok tokens ↔ ∃ column, Scans 0 line tokens column [] := by
  constructor
  · intro h
    obtain ⟨tokens', column', s', hscans, hend⟩ := exists_scans 0 line
    rw [tokenize, hscans.tokenizeFrom_eq] at h
    cases s' with
    | nil =>
      rw [tokenizeFrom_nil, List.append_nil, List.reverse_reverse] at h
      cases h
      exact ⟨column', hscans⟩
    | cons c rest =>
      rw [tokenizeFrom_of_none hend] at h
      cases h
  · rintro ⟨column, hscans⟩
    rw [tokenize, hscans.tokenizeFrom_eq, tokenizeFrom_nil, List.append_nil,
      List.reverse_reverse]

/-- The tokens of a line are texts of their classes. -/
theorem accepts_of_tokenize {line : List Char} (h : tokenize line = .ok tokens) :
    ∀ t ∈ tokens, t.kind.accepts t.text = true := by
  obtain ⟨column, hscans⟩ := tokenize_eq_ok_iff.1 h
  exact hscans.accepts

/-- A line has no more tokens than characters. -/
theorem length_le_of_tokenize {line : List Char} (h : tokenize line = .ok tokens) :
    tokens.length ≤ line.length := by
  obtain ⟨column, hscans⟩ := tokenize_eq_ok_iff.1 h
  exact hscans.length_le

end DeskCalculator
