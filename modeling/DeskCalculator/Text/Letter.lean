import DeskCalculator.Text.DecimalDigit

/-!
# Letter case

Keywords are compared without regard to case.  `lowered` and `raised` change the letters of
ASCII, and `raised` also the two other characters whose capital is a letter of ASCII, so that
a text names a keyword exactly when its folded form is that keyword.

`apply_toLower` says that whatever the letters agree on does not depend on their case.
-/

namespace DeskCalculator

/-- A text in lower case.  No character outside ASCII has one of the letters of a keyword as its
whole lower case. -/
def lowered (s : List Char) : List Char := s.map Char.toLower

/-- The capital of a character: of a dotless `i` and a long `s` too. -/
def capital (c : Char) : Char :=
  if c.toNat = 0x131 then 'I' else if c.toNat = 0x17F then 'S' else c.toUpper

/-- A text in capitals. -/
def raised (s : List Char) : List Char := s.map capital

/-- Whether a text is a given keyword in any mixture of cases. -/
def isKeyword (keyword : String) (s : List Char) : Bool := lowered s == keyword.toList

theorem lowered_append (s t : List Char) : lowered (s ++ t) = lowered s ++ lowered t :=
  List.map_append

/-! ## Characters in lower case -/

section Characters

variable {β : Type} {b : β} {c : Char}

/-- The small letter of a capital. -/
theorem toNat_toLower (hlow : 65 ≤ c.toNat) (hhigh : c.toNat ≤ 90) :
    c.toLower.toNat = c.toNat + 32 := by
  have hcapital : c.val ≥ 'A'.val ∧ c.val ≤ 'Z'.val :=
    ⟨UInt32.le_iff_toNat_le.2 hlow, UInt32.le_iff_toNat_le.2 hhigh⟩
  have hval : c.toLower.toNat = (c.val + 32).toNat := by
    unfold Char.toLower
    rw [dif_pos hcapital]
    rfl
  rw [hval, UInt32.toNat_add]
  exact Nat.mod_eq_of_lt (Nat.lt_of_le_of_lt (Nat.add_le_add_right hhigh 32) (by decide))

/-- Only a capital changes. -/
theorem toLower_of_not_capital (h : ¬ (65 ≤ c.toNat ∧ c.toNat ≤ 90)) : c.toLower = c := by
  unfold Char.toLower
  refine dif_neg fun hcapital => h ?_
  exact ⟨UInt32.le_iff_toNat_le.1 hcapital.1, UInt32.le_iff_toNat_le.1 hcapital.2⟩

/-- What changes in lower case is a letter, and becomes a small one. -/
theorem toLower_cases (c : Char) :
    c.toLower = c ∨ (isLetter c = true ∧ 97 ≤ c.toLower.toNat ∧ c.toLower.toNat ≤ 122) := by
  by_cases hcapital : 65 ≤ c.toNat ∧ c.toNat ≤ 90
  · obtain ⟨hlow, hhigh⟩ := hcapital
    rw [toNat_toLower hlow hhigh]
    exact .inr ⟨by simp [isLetter, hlow, hhigh], by omega, by omega⟩
  · exact .inl (toLower_of_not_capital hcapital)

theorem toLower_eq_self (h : isLetter c = false) : c.toLower = c := by
  rcases toLower_cases c with hsame | ⟨hletter, -⟩
  · exact hsame
  · rw [h] at hletter
    cases hletter

/-- A property that all letters agree on does not depend on their case. -/
theorem apply_toLower (p : Char → β) (hp : ∀ c, isLetter c = true → p c = b) (c : Char) :
    p c.toLower = p c := by
  rcases toLower_cases c with hsame | ⟨hletter, hlow, hhigh⟩
  · rw [hsame]
  · rw [hp c.toLower (by simp [isLetter, hlow, hhigh]), hp c hletter]

theorem isLetter_toLower (c : Char) : isLetter c.toLower = isLetter c :=
  apply_toLower isLetter (fun _ h => h) c

theorem toLower_toLower (c : Char) : c.toLower.toLower = c.toLower := by
  rcases toLower_cases c with hsame | ⟨-, hlow, -⟩
  · rw [hsame, hsame]
  · exact toLower_of_not_capital (by omega)

/-- A text in lower case stays what it is. -/
theorem lowered_lowered (s : List Char) : lowered (lowered s) = lowered s := by
  rw [lowered, lowered, List.map_map]
  exact List.map_congr_left fun c _ => toLower_toLower c

end Characters

theorem isKeyword_lowered (keyword : String) (s : List Char) :
    isKeyword keyword (lowered s) = isKeyword keyword s := by
  rw [isKeyword, lowered_lowered, isKeyword]

end DeskCalculator
