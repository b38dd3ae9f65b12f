import DeskCalculator.Decimal.Reader
import DeskCalculator.Operand
import DeskCalculator.Proofs.Token.Lexemes

/-!
# The two readers agree on plain numbers

Digits, with a fraction or without, mean the same to the reader of operands and to the general
reader of doubles: none of the liberties that the general reader takes changes them.

* `readFloat?_of_isNumber` — the general reader gives the value of an operand's text.
-/

namespace DeskCalculator

variable {c : Char} {s : List Char}

/-! ## Characters that are left alone -/

theorem digitValue?_of_isDigit (h : isDigit c = true) : digitValue? c = some (c.toNat - 48) := by
  simp only [isDigit, Bool.and_eq_true, decide_eq_true_eq] at h
  have hfirst : (decide (48 ≤ c.toNat) && decide (c.toNat < 48 + 10)) = true := by
    simp only [Bool.and_eq_true, decide_eq_true_eq]
    omega
  have hfind : zeroDigits.find? (fun z => z ≤ c.toNat && c.toNat < z + 10) = some 48 :=
    List.find?_cons_of_pos hfirst
  rw [digitValue?, hfind, Option.map_some]

theorem toAsciiDigit_of_isDigit (h : isDigit c = true) : toAsciiDigit c = c := by
  have hvalue := digitValue?_of_isDigit h
  simp only [isDigit, Bool.and_eq_true, decide_eq_true_eq] at h
  have hsum : 48 + (c.toNat - 48) = c.toNat := by omega
  simp only [toAsciiDigit, hvalue, hsum, Char.ofNat_toNat]

/-- A number has only digits and a point. -/
theorem isDigit_or_of_isNumber (h : isNumber s = true) : ∀ c ∈ s, isDigit c = true ∨ c = '.' := by
  obtain ⟨whole, tail, rfl, -, hwhole, htail⟩ := isNumber_iff.1 h
  intro c hc
  rcases List.mem_append.1 hc with hc | hc
  · exact .inl (hwhole c hc)
  · rcases htail with rfl | ⟨fraction, rfl, -, hfraction⟩
    · cases hc
    · rcases List.mem_cons.1 hc with rfl | hc
      · exact .inr rfl
      · exact .inl (hfraction c hc)

/-- No number has a blank in it. -/
theorem not_isBlank_of_isNumber (h : isNumber s = true) : ∀ c ∈ s, isBlank c = false := by
  intro c hc
  rcases isDigit_or_of_isNumber h c hc with hdigit | rfl
  · exact not_isBlank_of_isDigit hdigit
  · rfl

theorem map_toAsciiDigit_of_isNumber (h : isNumber s = true) : s.map toAsciiDigit = s := by
  rw [List.map_congr_left (g := id) fun c hc => ?_, List.map_id]
  rcases isDigit_or_of_isNumber h c hc with hdigit | rfl
  · exact toAsciiDigit_of_isDigit hdigit
  · rfl

/-- A text without characters of a class is trimmed of nothing. -/
theorem trimBy_eq_self {p : Char → Bool} (h : ∀ c ∈ s, p c = false) : trimBy p s = s := by
  have hstop : ∀ t : List Char, (∀ c ∈ t, p c = false) → t.dropWhile p = t := fun t ht =>
    (takeWhile_dropWhile_append (l := []) (by simp) fun c hc =>
      ht c (List.mem_of_mem_head? hc)).2
  rw [trimBy, hstop s h, dropWhileEnd, hstop _ fun c hc => h c (List.mem_reverse.1 hc),
    List.reverse_reverse]

theorem trimWhiteSpace_of_isNumber (h : isNumber s = true) : trimWhiteSpace s = s := by
  refine trimBy_eq_self fun c hc => ?_
  rcases isDigit_or_of_isNumber h c hc with hdigit | rfl
  · have hblank := not_isBlank_of_isDigit hdigit
    rw [isBlank, Bool.or_eq_false_iff] at hblank
    exact hblank.1
  · rfl

theorem dropUnderscores?_eq_some (h : '_' ∉ s) (before : Bool) :
    dropUnderscores? before s = some s := by
  induction s generalizing before with
  | nil => rfl
  | cons c s ih =>
    have hc : c ≠ '_' := fun heq => h (by simp [heq])
    rw [dropUnderscores?, ih fun hmem => h (List.mem_cons_of_mem _ hmem), Option.map_some]
    exact hc

theorem underscore_notMem_of_isNumber (h : isNumber s = true) : '_' ∉ s := fun hmem => by
  rcases isDigit_or_of_isNumber h _ hmem with hdigit | hpoint
  · exact absurd hdigit (by decide)
  · exact absurd hpoint (by decide)

/-! ## The value -/

/-- What begins with a digit is none of the words. -/
theorem lowered_ne_word {word : String} {first : Char} {others : List Char}
    (h : isDigit c = true) (hword : word.toList = first :: others)
    (hfirst : isDigit first = false) : String.ofList ((c :: s).map Char.toLower) ≠ word := by
  rintro rfl
  rw [String.toList_ofList, List.map_cons, toLower_of_isDigit h] at hword
  rw [← (List.cons.inj hword).1, h] at hfirst
  cases hfirst

/-- What begins with a digit is a number and no word. -/
theorem readMagnitude?_cons (negative : Bool) (hc : isDigit c = true) :
    readMagnitude? negative (c :: s) =
      (readNumeral? (c :: s)).map fun (digits, exponent) => ofDecimal negative digits exponent := by
  obtain ⟨word, hword⟩ : ∃ word, word = String.ofList ((c :: s).map Char.toLower) := ⟨_, rfl⟩
  have hinf : word ≠ "inf" := hword ▸ lowered_ne_word hc rfl rfl
  have hinfinity : word ≠ "infinity" := hword ▸ lowered_ne_word hc rfl rfl
  have hnan : word ≠ "nan" := hword ▸ lowered_ne_word hc rfl rfl
  simp only [readMagnitude?, ← hword, hinf, hinfinity, hnan, decide_false, Bool.or_false,
    Bool.false_eq_true, if_false]

/-- A digit is no sign. -/
theorem readFloat?_of_plain_cons {text : List Char}
    (hplain : dropUnderscores? false (trimWhiteSpace (text.map toAsciiDigit)) = some (c :: s))
    (hc : isDigit c = true) : readFloat? text = readMagnitude? false (c :: s) := by
  rw [readFloat?, hplain, Option.bind_some]
  split
  next heq =>
    cases heq
    exact absurd hc (by decide)
  next heq =>
    cases heq
    exact absurd hc (by decide)
  next => rfl

/-- The general reader and the reader of operands take a number apart in the same way. -/
theorem readNumeral?_of_isNumber (h : isNumber s = true) :
    (readNumeral? s).map (fun (digits, exponent) => ofDecimal false digits exponent) =
      some (literalValue s) := by
  obtain ⟨whole, tail, rfl, hne, hwhole, htail⟩ := isNumber_iff.1 h
  rcases htail with rfl | ⟨fraction, rfl, hfraction, hdigits⟩
  · obtain ⟨htake, hdrop⟩ := takeWhile_dropWhile_append (m := []) hwhole (by simp)
    rw [List.append_nil] at htake hdrop ⊢
    simp [readNumeral?, spanDigits, readExponent?, literalValue, htake, hdrop, hne]
  · obtain ⟨htake, hdrop⟩ := takeWhile_dropWhile_append (m := '.' :: fraction) hwhole
      (by rintro c hc; cases hc; decide)
    obtain ⟨htake', hdrop'⟩ := takeWhile_dropWhile_append (m := []) hdigits (by simp)
    rw [List.append_nil] at htake' hdrop'
    simp [readNumeral?, spanDigits, readExponent?, literalValue, htake, hdrop, htake', hdrop', hne]

/-- The general reader gives the value of a plain number. -/
theorem readFloat?_of_isNumber (h : isNumber s = true) :
    readFloat? s = some (literalValue s) := by
  have hvalue := readNumeral?_of_isNumber h
  have hplain : dropUnderscores? false (trimWhiteSpace (s.map toAsciiDigit)) = some s := by
    rw [map_toAsciiDigit_of_isNumber h, trimWhiteSpace_of_isNumber h,
      dropUnderscores?_eq_some (underscore_notMem_of_isNumber h)]
  obtain ⟨c, rest, rfl, hc⟩ := head_of_isNumber h
  rw [readFloat?_of_plain_cons hplain hc, readMagnitude?_cons false hc]
  exact hvalue

end DeskCalculator
