import DeskCalculator.Proofs.Json.Texts
import DeskCalculator.Proofs.Parser.Stacks
import Mathlib.Data.List.TakeWhile

/-!
# An object behind another text

Two texts of JSON make one only if something stands between them.  A text that ends in an object
and has anything but blanks before it is read as no value: what is read before the object ends
either at its brace, where a mark should stand, or with the first quote of a string that is open
there, behind which the object goes on with the letter of its first key.

* `ReadsFlat` — words and numbers are read up to an opening brace at most.
* `Behind` — where a reader can be after it has passed the brace of the object, or not yet.
* `EndsBehind` — every value that is read ends at such a place.
* `parse_append_openedObject` — so the whole text is no value.
-/

namespace DeskCalculator.Json

/-! ## Up to a brace -/

/-- What was read of a text, up to a rest of it, has no opening brace. -/
def ReadsFlat (s rest : List Char) : Prop := ∃ read, s = read ++ rest ∧ '\x7b' ∉ read

section Flat

variable {s rest last : List Char} {v : Json} {negative : Bool}

theorem ReadsFlat.refl (s : List Char) : ReadsFlat s s := ⟨[], rfl, List.not_mem_nil⟩

theorem ReadsFlat.cons {c : Char} (hc : c ≠ '\x7b') (h : ReadsFlat s rest) :
    ReadsFlat (c :: s) rest := by
  obtain ⟨read, rfl, hread⟩ := h
  exact ⟨c :: read, rfl, List.not_mem_cons_of_ne_of_not_mem hc.symm hread⟩

theorem ReadsFlat.trans (h : ReadsFlat s rest) (h' : ReadsFlat rest last) : ReadsFlat s last := by
  obtain ⟨read, rfl, hread⟩ := h
  obtain ⟨read', rfl, hread'⟩ := h'
  exact ⟨read ++ read', (List.append_assoc ..).symm, by simp [hread, hread']⟩

/-- A text that ends in an object is read up to the brace of the object at most. -/
theorem ReadsFlat.exists_append {begun object : List Char}
    (h : ReadsFlat (begun ++ '\x7b' :: object) rest) : ∃ left, left ++ '\x7b' :: object = rest := by
  obtain ⟨read, heq, hread⟩ := h
  rcases List.append_eq_append_iff.1 heq with ⟨passed, rfl, hpassed⟩ | ⟨left, -, hrest⟩
  · cases passed with
    | nil => exact ⟨[], hpassed⟩
    | cons c passed =>
      obtain ⟨rfl, -⟩ := List.cons_eq_cons.1 hpassed
      exact absurd (by simp) hread
  · exact ⟨left, hrest.symm⟩

theorem readsFlat_spanDigits (s : List Char) : ReadsFlat s (spanDigits s).2 := by
  refine ⟨s.takeWhile isDigit, List.takeWhile_append_dropWhile.symm, fun hmem => ?_⟩
  have hdigit := List.mem_takeWhile_imp hmem
  exact absurd hdigit (by decide)

theorem readsFlat_after? {word : String} (hword : '\x7b' ∉ word.toList)
    (h : after? word s = some rest) : ReadsFlat s rest := by
  unfold after? at h
  split at h
  · rename_i hprefix
    obtain ⟨behind, rfl⟩ := List.isPrefixOf_iff_prefix.1 hprefix
    cases h
    refine ⟨word.toList, ?_, hword⟩
    rw [← String.length_toList, List.drop_left]
  · cases h

theorem readsFlat_readFraction (s : List Char) : ReadsFlat s (readFraction s).2 := by
  unfold readFraction
  split
  · rename_i digits
    dsimp only
    split
    · exact .refl _
    · exact (readsFlat_spanDigits digits).cons (by decide)
  · exact .refl _

theorem readsFlat_readPower (s : List Char) : ReadsFlat s (readPower s).2 := by
  unfold readPower
  split
  · rename_i mark digits
    split
    · rename_i hmark
      have hmark : mark ≠ '\x7b' := by
        rintro rfl
        exact absurd hmark (by decide)
      split
      rename_i signed hsign
      have hsigned : ReadsFlat digits signed := by
        split at hsign
        · cases hsign
          exact (ReadsFlat.refl _).cons (by decide)
        · cases hsign
          exact (ReadsFlat.refl _).cons (by decide)
        · cases hsign
          exact .refl _
      dsimp only
      split
      · exact .refl _
      · exact (hsigned.trans (readsFlat_spanDigits _)).cons hmark
    · exact .refl _
  · exact .refl _

theorem readsFlat_readWhole? {whole : List Char} (h : readWhole? s = some (whole, rest)) :
    ReadsFlat s rest := by
  unfold readWhole? at h
  split at h
  · cases h
    exact (ReadsFlat.refl _).cons (by decide)
  · split at h
    · cases h
    · have hrest : rest = (spanDigits s).2 := by
        rw [Option.some.inj h]
      exact hrest ▸ readsFlat_spanDigits s

theorem readsFlat_readNumber (h : readNumber negative s = .ok (v, rest)) : ReadsFlat s rest := by
  unfold readNumber at h
  split at h
  · cases h
  · rename_i whole after hwhole
    have hrest : rest = (readPower (readFraction after).2).2 := by
      dsimp only at h
      split at h
      · split at h
        · cases h
        · cases h
          rfl
      · cases h
        rfl
    subst hrest
    exact (readsFlat_readWhole? hwhole).trans
      ((readsFlat_readFraction _).trans (readsFlat_readPower _))

/-- Words and numbers have no brace in them. -/
theorem readsFlat_readAtom (h : readAtom s = .ok (v, rest)) : ReadsFlat s rest := by
  unfold readAtom at h
  iterate 6
    split at h
    · rename_i hword
      cases h
      exact readsFlat_after? (by decide) hword
  split at h
  · exact (readsFlat_readNumber h).cons (by decide)
  · exact readsFlat_readNumber h

end Flat

/-! ## Behind the brace -/

/-- The text of an object from its brace on, given what follows the first letter of its first
key. -/
def openedObject (after : List Char) : List Char := '\x7b' :: '"' :: 'e' :: after

/-- Where a reader of a text that ends in an object can be after a value: before the brace, or
behind the first quote of the object, which ended a string that was open before. -/
inductive Behind (after : List Char) : List Char → Prop
  | before (left : List Char) : Behind after (left ++ openedObject after)
  | within : Behind after ('e' :: after)

section Behind

variable {after begun rest : List Char} {v : Json} {found t : CodePoints}

theorem skipSpace_openedObject (begun after : List Char) :
    skipSpace (begun ++ openedObject after) = skipSpace begun ++ openedObject after := by
  rw [skipSpace, List.dropWhile_append]
  split
  · rename_i hempty
    rw [skipSpace, List.isEmpty_iff.1 hempty]
    rfl
  · rfl

theorem hexValue?_brace : hexValue? '\x7b' = none := rfl

/-- The digits of an escape have no brace among them. -/
theorem hexUnit?_ne_brace {a b c d : Char} {unit : Nat} (h : hexUnit? a b c d = some unit) :
    a ≠ '\x7b' ∧ b ≠ '\x7b' ∧ c ≠ '\x7b' ∧ d ≠ '\x7b' := by
  refine ⟨?_, ?_, ?_, ?_⟩ <;>
    (rintro rfl; simp [hexUnit?, hexValue?_brace] at h)

/-- A string ends before the object or with its first quote. -/
theorem behind_readString (h : readString found (begun ++ openedObject after) = .ok (t, rest)) :
    Behind after rest := by
  generalize hs : begun ++ openedObject after = s at h
  fun_induction readString found s generalizing begun with
  | case1 found rest' =>
    -- the closing quote
    cases begun with
    | nil => cases hs
    | cons c left =>
      cases h
      cases hs
      exact .before left
  | case2 found a b c d rest' unit hunit ih =>
    -- an escape of four digits
    obtain ⟨ha, hb, hc, hd⟩ := hexUnit?_ne_brace hunit
    have hflat : ReadsFlat (begun ++ openedObject after) rest' :=
      ⟨['\\', 'u', a, b, c, d], hs, by simp [ha.symm, hb.symm, hc.symm, hd.symm]⟩
    obtain ⟨left, hleft⟩ := hflat.exists_append
    exact ih hleft h
  | case3 => cases h
  | case4 found c rest' hu e he ih =>
    -- an escape of one letter
    have hc : c ≠ '\x7b' := by
      rintro rfl
      cases he
    have hflat : ReadsFlat (begun ++ openedObject after) rest' :=
      ⟨['\\', c], hs, by simp [hc.symm]⟩
    obtain ⟨left, hleft⟩ := hflat.exists_append
    exact ih hleft h
  | case5 => cases h
  | case6 => cases h
  | case7 found c rest' hquote hunit hescape hc ih =>
    -- a character that stands for itself, which may be the brace
    cases begun with
    | nil =>
      cases hs
      rw [readString] at h
      cases h
      exact .within
    | cons c' left =>
      cases hs
      exact ih rfl h
  | case8 => cases h

/-! ## Values -/

/-- A mark behind a value stands before the object: neither the brace of the object nor the letter
of its first key is one. -/
theorem Behind.exists_append {mark : Char} {last : List Char} (h : Behind after rest)
    (hlast : skipSpace rest = mark :: last) (hbrace : mark ≠ '\x7b') (hletter : mark ≠ 'e') :
    ∃ left, left ++ openedObject after = last := by
  cases h with
  | before left =>
    rw [skipSpace_openedObject] at hlast
    cases hleft : skipSpace left with
    | nil =>
      rw [hleft] at hlast
      cases hlast
      exact absurd rfl hbrace
    | cons c left' =>
      rw [hleft] at hlast
      cases hlast
      exact ⟨left', rfl⟩
  | within =>
    cases hlast
    exact absurd rfl hletter

/-- Reading the members of the object goes to the end of the text. -/
def ClosesObject (after : List Char) : Prop :=
  ∀ fuel members rest v, readMembers fuel members ('"' :: 'e' :: after) = .ok (v, rest) → rest = []

/-- Where the readers are, with given fuel, when they have read something of a text that ends in the
object.  Only the value of the object itself goes to the end. -/
structure EndsBehind (after : List Char) (fuel : Nat) : Prop where
  value : ∀ begun rest v, readValue fuel (begun ++ openedObject after) = .ok (v, rest) →
    Behind after rest ∨ begun = [] ∧ rest = []
  elements : ∀ begun rest items v,
    readElements fuel items (begun ++ openedObject after) = .ok (v, rest) → Behind after rest
  members : ∀ begun rest members v,
    readMembers fuel members (begun ++ openedObject after) = .ok (v, rest) → Behind after rest

section Step

variable {fuel : Nat} {v : Json} {items : List Json} {members : List (List Char × Json)}

theorem EndsBehind.value_succ (ih : EndsBehind after fuel) (hobject : ClosesObject after)
    (h : readValue (fuel + 1) (begun ++ openedObject after) = .ok (v, rest)) :
    Behind after rest ∨ begun = [] ∧ rest = [] := by
  cases begun with
  | nil =>
    exact .inr ⟨rfl, hobject fuel [] rest v h⟩
  | cons c begun =>
    left
    rw [List.cons_append] at h
    unfold readValue at h
    split at h
    · -- a string
      rename_i hs
      cases hs
      obtain ⟨⟨text, rest'⟩, hstring, hok⟩ := bind_eq_ok.1 h
      cases hok
      exact behind_readString hstring
    · -- an array
      rename_i hs
      cases hs
      split at h
      · rename_i hmark
        cases h
        obtain ⟨left, rfl⟩ := (Behind.before begun).exists_append hmark (by decide) (by decide)
        exact .before left
      · rw [skipSpace_openedObject] at h
        exact ih.elements _ _ _ _ h
    · -- an object
      rename_i hs
      cases hs
      split at h
      · rename_i hmark
        cases h
        obtain ⟨left, rfl⟩ := (Behind.before begun).exists_append hmark (by decide) (by decide)
        exact .before left
      · rw [skipSpace_openedObject] at h
        exact ih.members _ _ _ _ h
    · -- a word or a number
      have hflat : ReadsFlat (c :: begun ++ openedObject after) rest := readsFlat_readAtom h
      obtain ⟨left, rfl⟩ := hflat.exists_append
      exact .before left

theorem EndsBehind.elements_succ (ih : EndsBehind after fuel)
    (h : readElements (fuel + 1) items (begun ++ openedObject after) = .ok (v, rest)) :
    Behind after rest := by
  rw [readElements] at h
  obtain ⟨⟨item, rest'⟩, hvalue, hnext⟩ := bind_eq_ok.1 h
  rcases ih.value _ _ _ hvalue with hbehind | ⟨-, rfl⟩
  · dsimp only at hnext
    split at hnext
    · rename_i hmark
      obtain ⟨left, rfl⟩ := hbehind.exists_append hmark (by decide) (by decide)
      rw [skipSpace_openedObject] at hnext
      exact ih.elements _ _ _ _ hnext
    · rename_i hmark
      obtain ⟨left, rfl⟩ := hbehind.exists_append hmark (by decide) (by decide)
      cases hnext
      exact .before left
    · cases hnext
  · cases hnext

theorem EndsBehind.members_succ (ih : EndsBehind after fuel)
    (h : readMembers (fuel + 1) members (begun ++ openedObject after) = .ok (v, rest)) :
    Behind after rest := by
  cases begun with
  | nil => cases h
  | cons c begun =>
    unfold readMembers at h
    split at h
    · rename_i hs
      cases hs
      obtain ⟨⟨key, behindKey⟩, hkey, h⟩ := bind_eq_ok.1 h
      dsimp only at h
      split at h
      · rename_i hcolon
        obtain ⟨left, rfl⟩ := (behind_readString hkey).exists_append hcolon (by decide) (by decide)
        rw [skipSpace_openedObject] at h
        obtain ⟨⟨value, behindValue⟩, hvalue, h⟩ := bind_eq_ok.1 h
        rcases ih.value _ _ _ hvalue with hbehind | ⟨-, rfl⟩
        · dsimp only at h
          split at h
          · rename_i hmark
            obtain ⟨left', rfl⟩ := hbehind.exists_append hmark (by decide) (by decide)
            rw [skipSpace_openedObject] at h
            exact ih.members _ _ _ _ h
          · rename_i hmark
            obtain ⟨left', rfl⟩ := hbehind.exists_append hmark (by decide) (by decide)
            cases h
            exact .before left'
          · cases h
        · cases h
      · cases h
    · cases h

end Step

/-- Whatever is read of a text that ends in an object is read to a place behind which no value goes
on. -/
theorem endsBehind (hobject : ClosesObject after) (fuel : Nat) : EndsBehind after fuel := by
  induction fuel with
  | zero =>
    constructor
    · intro begun rest v h
      cases h
    · intro begun rest items v h
      cases h
    · intro begun rest members v h
      cases h
  | succ fuel ih =>
    constructor
    · intro begun rest v h
      exact ih.value_succ hobject h
    · intro begun rest items v h
      exact ih.elements_succ h
    · intro begun rest members v h
      exact ih.members_succ h

/-- A text with anything but blanks before its last object is no value. -/
theorem parse_append_openedObject (hobject : ClosesObject after) (hbegun : skipSpace begun ≠ [])
    (v : Json) : parse (begun ++ openedObject after) ≠ .ok v := by
  intro h
  rw [parse, skipSpace_openedObject] at h
  obtain ⟨⟨value, rest⟩, hvalue, hend⟩ := bind_eq_ok.1 h
  rcases (endsBehind hobject _).value _ _ _ hvalue with hbehind | ⟨hnone, -⟩
  · cases hbehind with
    | before left =>
      simp only [skipSpace_openedObject] at hend
      rw [if_neg (by simp [openedObject])] at hend
      cases hend
    | within => cases hend
  · exact hbegun hnone

end Behind

/-! ## Objects whose values are texts -/

section Texts

variable {after begun : List Char} {texts : List (List Char × List Char)}

/-- The members of an object whose values are texts are read to the end, whatever the fuel. -/
theorem closesObject_of_printMembers (hne : texts ≠ [])
    (h : printMembers (textMembers texts) = '"' :: 'e' :: after) : ClosesObject after := by
  intro fuel members rest v hread
  rw [← h, ← List.append_nil (printMembers _)] at hread
  by_cases hfuel : texts.length < fuel
  · rw [readMembers_printMembers hne hfuel] at hread
    cases hread
    rfl
  · exact absurd hread (readMembers_printMembers_ne_ok (Nat.le_of_not_lt hfuel) _ _ _)

/-- A text with anything but blanks before an object whose values are texts is no value.  The first
key begins with a letter. -/
theorem parse_append_print_texts (hbegun : skipSpace begun ≠ []) (key value : List Char)
    (texts : List (List Char × List Char)) (v : Json) :
    parse (begun ++ print (.object (textMembers (('e' :: key, value) :: texts)))) ≠ .ok v := by
  obtain ⟨after, hafter⟩ : ∃ after,
      printMembers (textMembers (('e' :: key, value) :: texts)) = '"' :: 'e' :: after := by
    cases texts with
    | nil => exact ⟨_, printMembers_single⟩
    | cons m texts => exact ⟨_, printMembers_cons (List.cons_ne_nil _ _)⟩
  have hprint : print (.object (textMembers (('e' :: key, value) :: texts))) =
      openedObject after := by
    rw [print, hafter]
    rfl
  rw [hprint]
  exact parse_append_openedObject
    (closesObject_of_printMembers (List.cons_ne_nil _ _) hafter) hbegun v

end Texts

end DeskCalculator.Json
