import DeskCalculator.Proofs.Json.Behind
import DeskCalculator.Proofs.Json.Texts
import DeskCalculator.Proofs.Parser.Stacks

/-!
# An object that is cut off

An object is closed by its brace, and only by that: as long as its last character is missing, a
text that begins it is no value, wherever it ends.  A string that was read is read in the same way
when more comes behind it, so a text that is cut off and its whole agree up to the cut; there the
first misses the mark that the second has next.

* `readString_append` — what comes behind a string does not matter.
* `skipSpace_of_append` — the next mark of the whole is the next one of a part, or the part is used
  up.
* `exists_afterMember` — a member is read in the same way from a part as from the whole.
* `readMembers_part`, `parse_part` — a part of an object whose values are texts is a value only if
  it is the whole object.
-/

namespace DeskCalculator.Json

variable {s part more rest after : List Char} {found t : CodePoints} {v : Json} {fuel : Nat}

/-! ## More behind a text -/

/-- A string ends with its quote: what comes behind does not matter. -/
theorem readString_append (h : readString found s = .ok (t, rest)) (more : List Char) :
    readString found (s ++ more) = .ok (t, rest ++ more) := by
  fun_induction readString found s with
  | case1 found rest' =>
    cases h
    rw [List.cons_append, readString]
  | case2 found a b c d rest' unit hunit ih =>
    simp only [List.cons_append]
    rw [readString, hunit]
    exact ih h
  | case4 found c rest' hu e he ih =>
    simp only [List.cons_append]
    rw [readString_escaped he]
    exact ih h
  | case7 found c rest' hquote hunit hescape hc ih =>
    simp only [Bool.or_eq_true, decide_eq_true_eq, not_or, Nat.not_lt] at hc
    rw [List.cons_append, readString_plain hquote hc.2 hc.1]
    exact ih h
  | case3 | case5 | case6 | case8 => cases h

/-- What comes next in a whole text comes next in a part of it, unless the part is used up. -/
theorem skipSpace_of_append {c : Char} (h : part ++ more = s) (hs : skipSpace s = c :: after) :
    skipSpace part = [] ∨ ∃ left, skipSpace part = c :: left ∧ left ++ more = after := by
  rw [← h, skipSpace, List.dropWhile_append] at hs
  cases hleft : skipSpace part with
  | nil => exact .inl rfl
  | cons d left =>
    rw [← skipSpace, hleft] at hs
    obtain ⟨rfl, hmore⟩ := List.cons.inj hs
    exact .inr ⟨left, rfl, hmore⟩

theorem readValue_nil (fuel : Nat) (r : Json × List Char) : readValue fuel [] ≠ .ok r := by
  cases fuel <;> exact nofun

theorem readMembers_nil (fuel : Nat) (members : List (List Char × Json)) (r : Json × List Char) :
    readMembers fuel members [] ≠ .ok r := by
  cases fuel <;> exact nofun

/-! ## Parts of an object whose values are texts -/

/-- What is read of a part of a text up to its closing quote is the whole text. -/
theorem readString_part {text : List Char} (h : readString [] part = .ok (t, rest))
    (hwhole : part ++ more = text.flatMap printChar ++ '"' :: after) : rest ++ more = after := by
  have hread := readString_append h more
  rw [hwhole, readString_flatMap_printChar] at hread
  cases hread
  rfl

/-- What is read as a value where a text stands between quotes is the whole text. -/
theorem readValue_part {text : List Char} (h : readValue fuel (skipSpace part) = .ok (v, rest))
    (hwhole : part ++ more = ' ' :: (printString text ++ after)) : rest ++ more = after := by
  rw [printString_append] at hwhole
  obtain hnone | ⟨left, hleft, hmore⟩ := skipSpace_of_append hwhole rfl
  · rw [hnone] at h
    exact absurd h (readValue_nil _ _)
  · rw [hleft] at h
    cases fuel with
    | zero => cases h
    | succ fuel =>
      rw [readValue] at h
      obtain ⟨⟨t, rest'⟩, hstring, hok⟩ := bind_eq_ok.1 h
      cases hok
      exact readString_part hstring hmore

/-- The first member, and what stands behind it: the brace or the other members. -/
theorem exists_printMembers_cons (key value : List Char) (texts : List (List Char × List Char)) :
    ∃ behind, printMembers (textMembers ((key, value) :: texts)) =
        printString key ++ ':' :: ' ' :: (printString value ++ behind) ∧
      (behind = ['\x7d'] ∨
        texts ≠ [] ∧ behind = ',' :: ' ' :: printMembers (textMembers texts)) := by
  by_cases hlast : texts = []
  · subst hlast
    exact ⟨_, printMembers_single, .inl rfl⟩
  · exact ⟨_, printMembers_cons hlast, .inr ⟨hlast, rfl⟩⟩

/-- Where the members of an object are read from a part of its text, the first member is whole, and
reading goes on behind it. -/
theorem exists_afterMember {key value behind : List Char} {members : List (List Char × Json)}
    (h : readMembers fuel members part = .ok (v, rest))
    (hwhole : part ++ more = printString key ++ ':' :: ' ' :: (printString value ++ behind)) :
    ∃ fuel' members' left, left ++ more = behind ∧
      afterMember fuel' members' (skipSpace left) = .ok (v, rest) := by
  rw [printString_append] at hwhole
  cases fuel with
  | zero => cases h
  | succ fuel =>
    unfold readMembers at h
    split at h
    · obtain ⟨⟨found, behindKey⟩, hkey, h⟩ := bind_eq_ok.1 h
      have hcolon := readString_part hkey (List.cons.inj hwhole).2
      dsimp only at h
      split at h
      · rename_i behindColon hmark
        obtain hnone | ⟨left, hleft, hmore⟩ := skipSpace_of_append hcolon rfl
        · rw [hnone] at hmark
          cases hmark
        · cases hleft.symm.trans hmark
          obtain ⟨⟨found', behindValue⟩, hvalue, h⟩ := bind_eq_ok.1 h
          exact ⟨fuel, (found.joined, found') :: members, behindValue,
            readValue_part hvalue hmore, h⟩
      · cases h
    · cases h

/-- The members of an object are read up to its brace, and behind that nothing is missing. -/
theorem readMembers_part {texts : List (List Char × List Char)} (hne : texts ≠ [])
    {members : List (List Char × Json)} (h : readMembers fuel members part = .ok (v, rest))
    (hwhole : part ++ more = printMembers (textMembers texts)) : more = [] := by
  induction texts generalizing fuel members part with
  | nil => exact absurd rfl hne
  | cons m texts ih =>
    obtain ⟨key, value⟩ := m
    obtain ⟨behind, htext, hbehind⟩ := exists_printMembers_cons key value texts
    obtain ⟨fuel, members, left, hmore, h⟩ := exists_afterMember h (hwhole.trans htext)
    obtain rfl | ⟨hothers, rfl⟩ := hbehind
    · -- the brace comes next
      obtain hnone | ⟨left', -, hmore'⟩ := skipSpace_of_append hmore rfl
      · rw [hnone] at h
        cases h
      · exact (List.append_eq_nil_iff.1 hmore').2
    · -- a comma and the other members come next
      obtain ⟨after, hafter⟩ := exists_printMembers_eq hothers
      obtain hnone | ⟨left', hleft', hmore'⟩ := skipSpace_of_append hmore rfl
      · rw [hnone] at h
        cases h
      · rw [hleft', afterMember] at h
        rw [hafter] at hmore'
        obtain hnone | ⟨left'', hleft'', hmore''⟩ := skipSpace_of_append hmore' rfl
        · rw [hnone] at h
          exact absurd h (readMembers_nil _ _ _)
        · rw [hleft''] at h
          refine ih hothers h ?_
          rw [hafter, List.cons_append, hmore'']

/-- **A part of an object is no value.**  If a text is read that begins an object whose values are
texts, it is the whole object. -/
theorem parse_part {texts : List (List Char × List Char)} (hne : texts ≠ [])
    (h : parse part = .ok v) (hwhole : part ++ more = print (.object (textMembers texts))) :
    more = [] := by
  obtain ⟨after, hafter⟩ := exists_printMembers_eq hne
  have hobject : print (.object (textMembers texts)) = '\x7b' :: '"' :: after := by
    rw [print, hafter]
  rw [hobject] at hwhole
  rw [parse] at h
  obtain ⟨⟨value, rest⟩, hvalue, -⟩ := bind_eq_ok.1 h
  obtain hnone | ⟨left, hleft, hmore⟩ := skipSpace_of_append hwhole rfl
  · rw [hnone] at hvalue
    exact absurd hvalue (readValue_nil _ _)
  · rw [hleft, readValue] at hvalue
    obtain hnone | ⟨left', hleft', hmore'⟩ := skipSpace_of_append hmore rfl
    · rw [hnone] at hvalue
      exact absurd hvalue (readMembers_nil _ _ _)
    · rw [hleft'] at hvalue
      refine readMembers_part hne hvalue ?_
      rw [hafter, List.cons_append, hmore']

end DeskCalculator.Json
