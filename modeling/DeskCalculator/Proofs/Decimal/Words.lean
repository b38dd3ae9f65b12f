import DeskCalculator.Decimal.Notation
import DeskCalculator.Decimal.Reader
import DeskCalculator.Proofs.Token.Lexemes
import Mathlib

/-!
# The texts of doubles

What is no finite double is written as a word, and the reader knows the words: infinity has one for
each sign, and all that is not a number is a single double.  Whatever is written, it has only
characters of numerals and of these words in it.

* `eq_nanFloat_or_infiniteFloat` — the doubles that are not finite.
* `readFloat?_fullText_of_not_isFinite` — they are read back.
* `isNumeralChar_of_mem_fullText` — what the text of a double is made of.
-/

namespace DeskCalculator

open Float.Model (UnpackedFloat)

variable {v : Float}

/-! ## Doubles that are not finite -/

/-- A double is given by its unpacked form. -/
theorem eq_of_unpack {v w : Float} (h : v.toModel.unpack = w.toModel.unpack) : v = w := by
  obtain ⟨⟨bits, hv⟩⟩ := v
  obtain ⟨⟨bits', hw⟩⟩ := w
  cases UInt64.toBitVec_inj.1 ((UnpackedFloat.unpack_inj_of_valid hv hw).1 h)
  rfl

/-- What is no finite double is `nanFloat` or infinite with one of the two signs. -/
theorem eq_nanFloat_or_infiniteFloat (h : v.isFinite = false) :
    v = nanFloat ∨ ∃ negative, v = infiniteFloat negative := by
  have hfinite : v.toModel.unpack.isFinite = false := h
  cases hv : v.toModel.unpack with
  | notANumber => exact .inl (eq_of_unpack hv)
  | infinity sign =>
    cases sign with
    | positive => exact .inr ⟨false, eq_of_unpack hv⟩
    | negative => exact .inr ⟨true, eq_of_unpack hv⟩
  | zero | finite =>
    rw [hv] at hfinite
    cases hfinite

/-- A double that is not finite is written as a word and read back. -/
theorem readFloat?_fullText_of_not_isFinite (h : v.isFinite = false) :
    readFloat? (fullText v) = some v := by
  rcases eq_nanFloat_or_infiniteFloat h with rfl | ⟨negative, rfl⟩
  · rfl
  · cases negative <;> rfl

/-! ## Characters -/

/-- A character of numerals and of the words for infinity and for what is not a number. -/
def isNumeralChar (c : Char) : Bool :=
  isDigit c || ['.', '+', '-', 'e', 'i', 'n', 'f', 'a'].contains c

theorem isDigit_of_mem_natText {n : Nat} {c : Char} (hc : c ∈ natText n) : isDigit c = true := by
  have hdigit : c.isDigit = true := Nat.isDigit_of_mem_toDigits (by decide) (by decide) hc
  simp only [Char.isDigit, Bool.and_eq_true, decide_eq_true_eq, ge_iff_le,
    UInt32.le_iff_toNat_le] at hdigit
  simpa [isDigit] using hdigit

theorem isNumeralChar_of_isDigit {c : Char} (h : isDigit c = true) : isNumeralChar c = true := by
  simp [isNumeralChar, h]

theorem isNumeralChar_of_mem_natText {n : Nat} : ∀ c ∈ natText n, isNumeralChar c = true :=
  fun _ hc => isNumeralChar_of_isDigit (isDigit_of_mem_natText hc)

theorem isNumeralChar_of_mem_zeros {n : Nat} :
    ∀ c ∈ List.replicate n '0', isNumeralChar c = true := by
  intro c hc
  rw [List.eq_of_mem_replicate hc]
  rfl

theorem isNumeralChar_of_mem_exponentText {e : Int} :
    ∀ c ∈ exponentText e, isNumeralChar c = true := by
  unfold exponentText
  refine List.forall_mem_cons.2 ⟨?_, ?_⟩
  · split <;> rfl
  · split
    · exact List.forall_mem_cons.2 ⟨rfl, isNumeralChar_of_mem_natText⟩
    · exact isNumeralChar_of_mem_natText

theorem isNumeralChar_of_mem_text {d : Scientific} : ∀ c ∈ d.text, isNumeralChar c = true := by
  have hdigits : ∀ c ∈ natText d.digits, isNumeralChar c = true := isNumeralChar_of_mem_natText
  have hpoint : isNumeralChar '.' = true := rfl
  have hmark : isNumeralChar 'e' = true := rfl
  have hzero : isNumeralChar '0' = true := rfl
  unfold Scientific.text
  simp only
  split
  · split
    · simp only [List.forall_mem_append, List.forall_mem_cons]
      exact ⟨⟨hdigits, isNumeralChar_of_mem_zeros⟩, hpoint, hzero, by simp⟩
    · split
      · simp only [List.forall_mem_append, List.forall_mem_cons]
        exact ⟨fun c hc => hdigits c (List.mem_of_mem_take hc), hpoint,
          fun c hc => hdigits c (List.mem_of_mem_drop hc)⟩
      · simp only [List.forall_mem_append, List.forall_mem_cons]
        exact ⟨hzero, hpoint, isNumeralChar_of_mem_zeros, hdigits⟩
  · split
    · simp
    · rename_i one htext
      rw [htext] at hdigits
      simp only [List.forall_mem_cons] at hdigits ⊢
      exact ⟨hdigits.1, hmark, isNumeralChar_of_mem_exponentText⟩
    · rename_i first rest _ htext
      rw [htext] at hdigits
      simp only [List.forall_mem_append, List.forall_mem_cons] at hdigits ⊢
      exact ⟨hdigits.1, hpoint, hdigits.2, hmark, isNumeralChar_of_mem_exponentText⟩

/-- What the text of a double is made of. -/
theorem isNumeralChar_of_mem_fullText : ∀ c ∈ fullText v, isNumeralChar c = true := by
  have hnan : ∀ c ∈ ['n', 'a', 'n'], isNumeralChar c = true := List.all_eq_true.1 rfl
  have hinf : ∀ c ∈ ['i', 'n', 'f'], isNumeralChar c = true := List.all_eq_true.1 rfl
  have hmagnitude : ∀ c ∈ (if v.isInf then ['i', 'n', 'f'] else (Binary.ofFloat v).shortest.text),
      isNumeralChar c = true := by
    split
    · exact hinf
    · exact isNumeralChar_of_mem_text
  unfold fullText
  split
  · exact hnan
  · simp only
    split
    · exact List.forall_mem_cons.2 ⟨rfl, hmagnitude⟩
    · exact hmagnitude

/-- A character of numerals is no blank and no equals sign. -/
theorem not_of_isNumeralChar {c : Char} (h : isNumeralChar c = true) :
    isBlank c = false ∧ c ≠ '=' := by
  rcases Bool.or_eq_true_iff.1 h with hdigit | hother
  · refine ⟨not_isBlank_of_isDigit hdigit, ?_⟩
    rintro rfl
    exact absurd hdigit (by decide)
  · have hmem : c ∈ ['.', '+', '-', 'e', 'i', 'n', 'f', 'a'] := List.contains_iff_mem.1 hother
    have hblank : ∀ d ∈ ['.', '+', '-', 'e', 'i', 'n', 'f', 'a'], (!isBlank d) = true :=
      List.all_eq_true.1 rfl
    refine ⟨by simpa using hblank c hmem, ?_⟩
    rintro rfl
    exact absurd hmem (by decide)

end DeskCalculator
