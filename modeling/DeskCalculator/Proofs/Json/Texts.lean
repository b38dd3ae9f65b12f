import DeskCalculator.Json.Printer
import DeskCalculator.Json.Reader
import Mathlib.Tactic.SplitIfs

/-!
# Texts in JSON

A text is written between quotes with escapes, and the reader gives it back: a character of the
first plane is one unit of sixteen bits, and any other one a pair of surrogates that the reader
joins.

* `hexUnit?_hexText` — four hexadecimal digits and their number.
* `readString_printChar` — a character is read back, whatever was read before it.
* `readValue_printString` — so is a text.
* `parse_print_texts` — so is an object whose values are texts.
-/

namespace DeskCalculator.Json

variable {c : Char} {n : Nat} {s rest : List Char} {found : CodePoints}

/-! ## Hexadecimal digits -/

theorem hexValue?_hexDigit : ∀ n < 16, hexValue? (hexDigit n) = some n := by
  decide

/-- The four digits of a unit. -/
theorem hexText_four (n : Nat) :
    hexText 4 n = [hexDigit (n / 16 / 16 / 16 % 16), hexDigit (n / 16 / 16 % 16),
      hexDigit (n / 16 % 16), hexDigit (n % 16)] := rfl

/-- The digits of a unit give the unit. -/
theorem hexUnit?_hexText (h : n < 0x10000) :
    hexUnit? (hexDigit (n / 16 / 16 / 16 % 16)) (hexDigit (n / 16 / 16 % 16))
      (hexDigit (n / 16 % 16)) (hexDigit (n % 16)) = some n := by
  have hdigit : ∀ m, hexValue? (hexDigit (m % 16)) = some (m % 16) :=
    fun m => hexValue?_hexDigit _ (Nat.mod_lt m (by decide))
  have hsum : (n / 16 / 16 / 16 % 16 * 16 + n / 16 / 16 % 16) * 256
      + (n / 16 % 16 * 16 + n % 16) = n := by omega
  simp only [hexUnit?, hdigit, Option.bind_eq_bind, Option.bind_some, Option.pure_def, hsum]

/-! ## Characters -/

theorem readString_unitEscape (h : n < 0x10000) (found : CodePoints) (rest : List Char) :
    readString found (unitEscape n ++ rest) = readString (takeUnit found n) rest := by
  rw [unitEscape, hexText_four]
  show readString found ('\\' :: 'u' :: _ :: _ :: _ :: _ :: rest) = _
  rw [readString, hexUnit?_hexText h]

/-- Where the numbers of characters lie. -/
theorem toNat_valid (c : Char) : c.toNat < 0xD800 ∨ 0xDFFF < c.toNat ∧ c.toNat < 0x110000 :=
  c.valid

/-- A character is no surrogate. -/
theorem not_isSurrogate_toNat (c : Char) : isSurrogate c.toNat = false := by
  have hvalid := toNat_valid c
  simp only [isSurrogate, isHighSurrogate, isLowSurrogate, Bool.or_eq_false_iff,
    Bool.and_eq_false_iff, decide_eq_false_iff_not]
  omega

/-- What does not end a pair stands for itself. -/
theorem takeUnit_of_not_low (h : isLowSurrogate n = false) : takeUnit found n = n :: found := by
  cases found with
  | nil => rfl
  | cons high rest => simp [takeUnit, h]

/-- A character beyond the first plane is the pair of its units. -/
theorem takeUnit_pair (h : 0x10000 ≤ c.toNat) (found : CodePoints) :
    takeUnit (takeUnit found (0xD800 + (c.toNat - 0x10000) / 0x400))
      (0xDC00 + (c.toNat - 0x10000) % 0x400) = c.toNat :: found := by
  have hvalid := toNat_valid c
  have hhigh : isHighSurrogate (0xD800 + (c.toNat - 0x10000) / 0x400) = true := by
    simp only [isHighSurrogate, Bool.and_eq_true, decide_eq_true_eq]
    omega
  have hnotlow : isLowSurrogate (0xD800 + (c.toNat - 0x10000) / 0x400) = false := by
    simp only [isLowSurrogate, Bool.and_eq_false_iff, decide_eq_false_iff_not]
    omega
  have hlow : isLowSurrogate (0xDC00 + (c.toNat - 0x10000) % 0x400) = true := by
    simp only [isLowSurrogate, Bool.and_eq_true, decide_eq_true_eq]
    omega
  have hpoint : pairedPoint (0xD800 + (c.toNat - 0x10000) / 0x400)
      (0xDC00 + (c.toNat - 0x10000) % 0x400) = c.toNat := by
    unfold pairedPoint
    omega
  rw [takeUnit_of_not_low hnotlow, takeUnit, hhigh, hlow, hpoint]
  rfl

/-- The units of a character are read as the character. -/
theorem readString_units (c : Char) (found : CodePoints) (rest : List Char) :
    readString found ((units c).flatMap unitEscape ++ rest) =
      readString (c.toNat :: found) rest := by
  unfold units
  have hvalid := toNat_valid c
  by_cases hplane : c.toNat < 0x10000
  · have hnotlow : isLowSurrogate c.toNat = false :=
      (Bool.or_eq_false_iff.1 (not_isSurrogate_toNat c)).2
    rw [if_pos hplane, List.flatMap_singleton, readString_unitEscape hplane,
      takeUnit_of_not_low hnotlow]
  · have hpair : 0x10000 ≤ c.toNat := by omega
    simp only [if_neg hplane, List.flatMap_cons, List.flatMap_nil, List.append_nil,
      List.append_assoc]
    rw [readString_unitEscape (by omega), readString_unitEscape (by omega), takeUnit_pair hpair]

/-- A character that needs no escape is read as it stands. -/
theorem readString_plain (hquote : c ≠ '"') (hslash : c ≠ '\\') (hprintable : 0x20 ≤ c.toNat)
    (found : CodePoints) (rest : List Char) :
    readString found (c :: rest) = readString (c.toNat :: found) rest := by
  rw [readString]
  · rw [if_neg (by simp [hslash]; omega)]
  · exact fun h => hquote h
  · exact fun _ _ _ _ _ h => absurd h hslash
  · exact fun _ _ h => absurd h hslash

/-- An escape of one letter is read as the character that it stands for. -/
theorem readString_escaped {letter : Char} (h : escaped? letter = some c) (found : CodePoints)
    (rest : List Char) :
    readString found ('\\' :: letter :: rest) = readString (c.toNat :: found) rest := by
  have hletter : letter ≠ 'u' := by
    rintro rfl
    cases h
  rw [readString, h]
  exact fun _ _ _ _ _ hu _ => hletter hu

/-- The three ways in which a character is written. -/
inductive Printed (c : Char) : List Char → Prop
  /-- As a letter after a backslash. -/
  | escape {letter : Char} : escaped? letter = some c → Printed c ['\\', letter]
  /-- As it stands. -/
  | plain : c ≠ '"' → c ≠ '\\' → 0x20 ≤ c.toNat → c.toNat < 0x7F → Printed c [c]
  /-- As its units. -/
  | units : Printed c ((units c).flatMap unitEscape)

theorem printed_printChar (c : Char) : Printed c (printChar c) := by
  have hescape : ∀ {letter : Char}, escaped? letter = some c → Printed c ['\\', letter] := .escape
  unfold printChar
  split_ifs with hquote hslash hfeed hreturn htab hform hback hprintable
  · exact hescape (by rw [hquote]; rfl)
  · exact hescape (by rw [hslash]; rfl)
  · exact hescape (by rw [hfeed]; rfl)
  · exact hescape (by rw [hreturn]; rfl)
  · exact hescape (by rw [htab]; rfl)
  · exact hescape (by rw [hform]; rfl)
  · exact hescape (by rw [hback]; rfl)
  · simp only [Bool.and_eq_true, decide_eq_true_eq] at hprintable
    exact .plain hquote hslash hprintable.1 hprintable.2
  · exact .units

/-- A character is read back, whatever was read before it. -/
theorem readString_printChar (c : Char) (found : CodePoints) (rest : List Char) :
    readString found (printChar c ++ rest) = readString (c.toNat :: found) rest := by
  have hprinted := printed_printChar c
  generalize printChar c = text at hprinted ⊢
  cases hprinted with
  | escape h => exact readString_escaped h found rest
  | plain hquote hslash hlow _ => exact readString_plain hquote hslash hlow found rest
  | units => exact readString_units c found rest

/-! ## Texts -/

theorem readString_flatMap_printChar (s : List Char) (found : CodePoints) (rest : List Char) :
    readString found (s.flatMap printChar ++ '"' :: rest) =
      .ok (found.reverse ++ codePoints s, rest) := by
  induction s generalizing found with
  | nil =>
    show readString found ('"' :: rest) = _
    rw [readString]
    simp [codePoints]
  | cons c s ih =>
    rw [List.flatMap_cons, List.append_assoc, readString_printChar, ih]
    simp [codePoints]

/-- The characters of a text, read from its numbers. -/
theorem chars?_codePoints (s : List Char) : (codePoints s).chars? = some s := by
  have hvalid : ∀ c ∈ s, c.toNat.isValidChar := fun c _ => c.valid
  have hback : (codePoints s).map Char.ofNat = s := by
    simp [codePoints, Function.comp_def]
  unfold CodePoints.chars?
  rw [if_pos (by simpa [codePoints] using hvalid), hback]

/-- Characters are no surrogates, so none of them are joined. -/
theorem joined_codePoints (s : List Char) : (codePoints s).joined = s := by
  have hhigh : ∀ c : Char, isHighSurrogate c.toNat = false := fun c =>
    (Bool.or_eq_false_iff.1 (not_isSurrogate_toNat c)).1
  induction s with
  | nil => rfl
  | cons c s ih =>
    cases s with
    | nil => simp [codePoints, CodePoints.joined, not_isSurrogate_toNat]
    | cons d s =>
      simp only [codePoints, List.map_cons] at ih ⊢
      simp [CodePoints.joined, hhigh, not_isSurrogate_toNat, ih]

theorem printString_append (s rest : List Char) :
    printString s ++ rest = '"' :: (s.flatMap printChar ++ '"' :: rest) := by
  simp [printString]

/-- A text is read back, and with it nothing of what follows. -/
theorem readValue_printString (fuel : Nat) (s rest : List Char) :
    readValue (fuel + 1) (printString s ++ rest) = .ok (.string s, rest) := by
  rw [printString_append, readValue, readString_flatMap_printChar]
  simp [ofCodePoints, chars?_codePoints, Bind.bind, Except.bind]

/-! ## Objects whose values are texts -/

/-- The members of an object whose values are texts. -/
def textMembers (texts : List (List Char × List Char)) : List (List Char × Json) :=
  texts.map fun m => (m.1, .string m.2)

section Members

variable {key value : List Char} {texts : List (List Char × List Char)}

theorem print_text (value : List Char) : print (.string value) = printString value := by
  rw [print]

theorem printMembers_single :
    printMembers (textMembers [(key, value)]) =
      printString key ++ ':' :: ' ' :: (printString value ++ ['\x7d']) := by
  show printMembers [(key, .string value)] = _
  rw [printMembers, print_text]

theorem printMembers_cons (hne : texts ≠ []) :
    printMembers (textMembers ((key, value) :: texts)) =
      printString key ++ ':' :: ' ' ::
        (printString value ++ ',' :: ' ' :: printMembers (textMembers texts)) := by
  obtain ⟨m, texts, rfl⟩ := List.exists_cons_of_ne_nil hne
  show printMembers ((key, .string value) :: _ :: textMembers texts) = _
  rw [printMembers, print_text]
  · rfl
  · simp

/-- The first member begins with the quote of its key. -/
theorem exists_printMembers_eq (hne : texts ≠ []) :
    ∃ rest, printMembers (textMembers texts) = '"' :: rest := by
  obtain ⟨⟨key, value⟩, texts, rfl⟩ := List.exists_cons_of_ne_nil hne
  cases texts with
  | nil => exact ⟨_, printMembers_single⟩
  | cons m texts => exact ⟨_, printMembers_cons (by simp)⟩

theorem length_le_printMembers (texts : List (List Char × List Char)) :
    texts.length ≤ (printMembers (textMembers texts)).length := by
  induction texts with
  | nil => exact Nat.zero_le _
  | cons m texts ih =>
    obtain ⟨key, value⟩ := m
    cases texts with
    | nil => simp [printMembers_single, printString]
    | cons m texts =>
      rw [printMembers_cons (by simp)]
      simp only [List.length_append, List.length_cons] at ih ⊢
      omega

theorem skipSpace_printString (s rest : List Char) :
    skipSpace (' ' :: (printString s ++ rest)) = printString s ++ rest := rfl

/-- What is read behind a member: the next one, or the end of the object. -/
def afterMember (fuel : Nat) (found : List (List Char × Json)) :
    List Char → Except JsonFailure (Json × List Char)
  | ',' :: rest => readMembers fuel found (skipSpace rest)
  | '\x7d' :: rest => .ok (.object (mergeMembers found.reverse), rest)
  | _ => .error .malformed

/-- A member is read: its key, its value, and what stands behind it. -/
theorem readMembers_member (fuel : Nat) (found : List (List Char × Json))
    (key value rest : List Char) :
    readMembers (fuel + 2) found (printString key ++ ':' :: ' ' :: (printString value ++ rest)) =
      afterMember (fuel + 1) ((key, .string value) :: found) (skipSpace rest) := by
  have hcolon : ∀ after, skipSpace (':' :: after) = ':' :: after := fun after => rfl
  rw [printString_append key, readMembers, readString_flatMap_printChar]
  simp only [List.reverse_nil, List.nil_append, Bind.bind, Except.bind, hcolon,
    skipSpace_printString, readValue_printString, joined_codePoints]
  rfl

/-- Behind a member that is not the last one the next one is read. -/
theorem readMembers_printMembers_cons (hne : texts ≠ []) (fuel : Nat)
    (found : List (List Char × Json)) (key value rest : List Char) :
    readMembers (fuel + 2) found (printMembers (textMembers ((key, value) :: texts)) ++ rest) =
      readMembers (fuel + 1) ((key, .string value) :: found)
        (printMembers (textMembers texts) ++ rest) := by
  have htext : printMembers (textMembers ((key, value) :: texts)) ++ rest =
      printString key ++ ':' :: ' ' ::
        (printString value ++ ',' :: ' ' :: (printMembers (textMembers texts) ++ rest)) := by
    simp [printMembers_cons hne]
  have hmark : ∀ after : List Char, skipSpace (',' :: after) = ',' :: after := fun after => rfl
  have hnext : skipSpace (' ' :: (printMembers (textMembers texts) ++ rest)) =
      printMembers (textMembers texts) ++ rest := by
    obtain ⟨after, hafter⟩ := exists_printMembers_eq hne
    rw [hafter]
    rfl
  rw [htext, readMembers_member, hmark, afterMember, hnext]

/-- The members of an object are read from the next one on. -/
theorem readMembers_printMembers (hne : texts ≠ []) {fuel : Nat} (hfuel : texts.length < fuel)
    (found : List (List Char × Json)) (rest : List Char) :
    readMembers fuel found (printMembers (textMembers texts) ++ rest) =
      .ok (.object (mergeMembers (found.reverse ++ textMembers texts)), rest) := by
  induction texts generalizing fuel found with
  | nil => exact absurd rfl hne
  | cons m texts ih =>
    obtain ⟨key, value⟩ := m
    obtain ⟨fuel, rfl⟩ : ∃ n, fuel = n + 2 := ⟨fuel - 2, by simp at hfuel; omega⟩
    by_cases hlast : texts = []
    · subst hlast
      have htext : printMembers (textMembers [(key, value)]) ++ rest =
          printString key ++ ':' :: ' ' :: (printString value ++ '\x7d' :: rest) := by
        simp [printMembers_single]
      have hmark : skipSpace ('\x7d' :: rest) = '\x7d' :: rest := rfl
      rw [htext, readMembers_member, hmark, afterMember]
      simp [textMembers]
    · rw [readMembers_printMembers_cons hlast, ih hlast (by simp at hfuel; omega)]
      simp [textMembers]

/-- Without fuel for each of them the members of an object are not read. -/
theorem readMembers_printMembers_ne_ok {fuel : Nat} (hfuel : fuel ≤ texts.length)
    (found : List (List Char × Json)) (rest : List Char) (r : Json × List Char) :
    readMembers fuel found (printMembers (textMembers texts) ++ rest) ≠ .ok r := by
  induction texts generalizing fuel found with
  | nil =>
    rw [Nat.le_zero.1 hfuel]
    exact nofun
  | cons m texts ih =>
    obtain ⟨key, value⟩ := m
    match fuel with
    | 0 => exact nofun
    | 1 =>
      -- the first key is read, but not its value
      obtain ⟨shown, hshown⟩ : ∃ shown, printMembers (textMembers ((key, value) :: texts)) =
          printString key ++ ':' :: ' ' :: shown := by
        by_cases hlast : texts = []
        · subst hlast
          exact ⟨_, printMembers_single⟩
        · exact ⟨_, printMembers_cons hlast⟩
      rw [hshown, List.append_assoc, printString_append, readMembers,
        readString_flatMap_printChar]
      exact nofun
    | fuel + 2 =>
      have hmore : fuel + 1 ≤ texts.length := by
        rw [List.length_cons] at hfuel
        omega
      have hne : texts ≠ [] := by
        rintro rfl
        exact absurd hmore (Nat.not_succ_le_zero fuel)
      rw [readMembers_printMembers_cons hne]
      exact ih hmore _

/-- An object whose values are texts is read back; of members with one key the last one counts. -/
theorem parse_print_texts (hne : texts ≠ []) :
    parse (print (.object (textMembers texts))) =
      .ok (.object (mergeMembers (textMembers texts))) := by
  obtain ⟨after, hafter⟩ := exists_printMembers_eq hne
  have hlength := length_le_printMembers texts
  have hprint : print (.object (textMembers texts)) = '\x7b' :: '"' :: after := by
    rw [print, hafter]
  have hfuel : texts.length < 2 * after.length + 5 := by
    rw [hafter, List.length_cons] at hlength
    omega
  have hread := readMembers_printMembers hne hfuel [] []
  rw [List.append_nil, hafter] at hread
  have hvalue : readValue (2 * ('\x7b' :: '"' :: after).length + 2) ('\x7b' :: '"' :: after) =
      .ok (.object (mergeMembers (textMembers texts)), []) := by
    show readValue (2 * after.length + 5 + 1) _ = _
    rw [readValue]
    exact hread
  rw [hprint, parse]
  show (readValue (2 * ('\x7b' :: '"' :: after).length + 2) ('\x7b' :: '"' :: after) >>= _) = _
  rw [hvalue]
  rfl

/-! ## One line -/

/-- A printable character of ASCII, or a space. -/
def IsPlain (c : Char) : Prop := 0x20 ≤ c.toNat ∧ c.toNat < 0x7F

theorem isPlain_hexText (width n : Nat) : ∀ c ∈ hexText width n, IsPlain c := by
  have hdigit : ∀ d < 16, IsPlain (hexDigit d) := by
    unfold IsPlain
    decide
  induction width generalizing n with
  | zero => simp [hexText]
  | succ width ih =>
    rw [hexText, List.forall_mem_append, List.forall_mem_singleton]
    exact ⟨ih (n / 16), hdigit _ (Nat.mod_lt n (by decide))⟩

/-- Every character is written with plain ones. -/
theorem isPlain_printChar (c : Char) : ∀ d ∈ printChar c, IsPlain d := by
  have hslash : IsPlain '\\' := ⟨by decide, by decide⟩
  have hprinted := printed_printChar c
  generalize printChar c = text at hprinted ⊢
  cases hprinted with
  | @escape letter h =>
    have hletter : IsPlain letter := by
      unfold escaped? at h
      split at h <;> first
        | exact ⟨by decide, by decide⟩
        | cases h
    exact List.forall_mem_cons.2 ⟨hslash, List.forall_mem_singleton.2 hletter⟩
  | plain _ _ hlow hhigh => exact List.forall_mem_singleton.2 ⟨hlow, hhigh⟩
  | units =>
    intro d hd
    obtain ⟨unit, -, hd⟩ := List.mem_flatMap.1 hd
    have hunit : ∀ d ∈ unitEscape unit, IsPlain d :=
      List.forall_mem_cons.2 ⟨hslash, List.forall_mem_cons.2
        ⟨⟨by decide, by decide⟩, isPlain_hexText 4 unit⟩⟩
    exact hunit d hd

theorem isPlain_printString (s : List Char) : ∀ c ∈ printString s, IsPlain c := by
  have hquote : IsPlain '"' := ⟨by decide, by decide⟩
  refine List.forall_mem_cons.2 ⟨hquote, List.forall_mem_append.2
    ⟨fun d hd => ?_, List.forall_mem_singleton.2 hquote⟩⟩
  obtain ⟨c, -, hd⟩ := List.mem_flatMap.1 hd
  exact isPlain_printChar c d hd

theorem isPlain_printMembers (texts : List (List Char × List Char)) :
    ∀ c ∈ printMembers (textMembers texts), IsPlain c := by
  have hmark : ∀ c ∈ [':', ' ', ',', '\x7d'], IsPlain c := by
    simp [IsPlain]
  induction texts with
  | nil => exact fun c hc => hmark c (by simp_all [textMembers, printMembers])
  | cons m texts ih =>
    obtain ⟨key, value⟩ := m
    have hkey := isPlain_printString key
    have hvalue := isPlain_printString value
    by_cases hlast : texts = []
    · subst hlast
      rw [printMembers_single]
      simp only [List.forall_mem_append, List.forall_mem_cons]
      exact ⟨hkey, hmark _ (by simp), hmark _ (by simp), hvalue, hmark _ (by simp), by simp⟩
    · rw [printMembers_cons hlast]
      simp only [List.forall_mem_append, List.forall_mem_cons]
      exact ⟨hkey, hmark _ (by simp), hmark _ (by simp), hvalue, hmark _ (by simp),
        hmark _ (by simp), ih⟩

/-- The last character closes the object. -/
theorem getLast?_printMembers (texts : List (List Char × List Char)) :
    (printMembers (textMembers texts)).getLast? = some '\x7d' := by
  induction texts with
  | nil => rfl
  | cons m texts ih =>
    obtain ⟨key, value⟩ := m
    by_cases hlast : texts = []
    · subst hlast
      rw [printMembers_single]
      simp [List.getLast?_append, List.getLast?_cons]
    · rw [printMembers_cons hlast]
      simp [List.getLast?_append, List.getLast?_cons, ih]

end Members

end DeskCalculator.Json
