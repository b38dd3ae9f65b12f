import DeskCalculator.Proofs.Decimal.Range
import DeskCalculator.Proofs.History.Lines
import DeskCalculator.Proofs.Parser.Failures

/-!
# Reading a history of any content

Whatever a file holds, its reader goes from line to line, keeps the entries and passes over the
other lines.  One kind of line stops it: a line of JSON with an object whose value is a whole number
beyond all doubles.

* `HistoryFormat.entryOf?` — the entry of a line, if the line has one.
* `HistoryFormat.IsStoppedBy` — the lines that stop the reader.
* `HistoryFormat.read_eq_valueTooLarge_iff` — every other line has an entry or is passed over.
* `Recollection.ofLines_cons` — what one line adds to what is read.
* `history_read_unless_stopped` — a file is read to its end and gives all its entries unless it has
  such a line.
-/

namespace DeskCalculator

/-! ## Lines -/

/-- The entry that a line writes, if it writes one. -/
def HistoryFormat.entryOf? (format : HistoryFormat) (line : List Char) : Option RecalledEntry :=
  (format.read line).toOption

/-- The lines that stop the reader of a format: a line of JSON with an object whose value is a whole
number beyond all doubles.  No line of text does. -/
def HistoryFormat.IsStoppedBy : HistoryFormat → List Char → Prop
  | .text, _ => False
  | .jsonl, line =>
    ∃ data n, Json.parse line = .ok data ∧ data.get? "result".toList = some (.int n) ∧
      beyondDoubles ≤ n.natAbs

section Lines

variable {format : HistoryFormat} {line : List Char} {v : Json} {e : EntryFailure}

theorem HistoryFormat.entryOf?_eq_some_iff {r : RecalledEntry} :
    format.entryOf? line = some r ↔ format.read line = .ok r := by
  unfold entryOf?
  cases format.read line <;> simp [Except.toOption]

theorem readValueText_ne_valueTooLarge (s : List Char) :
    readValueText s ≠ .error .valueTooLarge := by
  unfold readValueText
  intro h
  split at h <;> cases h

/-- Only a whole number can be too large: infinity is a double, and every text that writes a number
writes a double. -/
theorem valueOfJson_eq_valueTooLarge_iff :
    valueOfJson v = .error .valueTooLarge ↔
      ∃ n, v = .int n ∧ beyondDoubles ≤ n.natAbs := by
  constructor
  · intro h
    cases v with
    | int n =>
      refine ⟨n, rfl, (floatOfInt?_eq_none_iff n).1 ?_⟩
      simp only [valueOfJson] at h
      cases hn : floatOfInt? n with
      | none => rfl
      | some w =>
        rw [hn] at h
        cases h
    | string s => exact absurd h (readValueText_ne_valueTooLarge s)
    | null | bool | float | surrogates | array | object => cases h
  · rintro ⟨n, rfl, hn⟩
    simp only [valueOfJson, (floatOfInt?_eq_none_iff n).2 hn]

/-- The value of an object is looked at before its keys are. -/
theorem ofObject_eq_valueTooLarge_iff {data : Json} :
    RecalledEntry.ofObject data = .error .valueTooLarge ↔
      ∃ v, data.get? "result".toList = some v ∧ valueOfJson v = .error .valueTooLarge := by
  cases data with
  | object members =>
    unfold RecalledEntry.ofObject
    cases hresult : (Json.object members).get? "result".toList with
    | none => simp
    | some v =>
      cases hvalue : valueOfJson v with
      | error e =>
        simp only [error_bind, Option.some.injEq, exists_eq_left', hvalue, Except.error.injEq]
      | ok value =>
        simp only [ok_bind, Option.some.injEq, exists_eq_left', hvalue]
        constructor
        · intro h
          split at h
          · cases h
          · split at h <;> cases h
        · intro h
          cases h
  | null | bool | int | float | string | surrogates | array =>
    simp [RecalledEntry.ofObject, Json.get?]

/-- Reading an entry from a line of text fails in no such way. -/
theorem ofLine_ne_valueTooLarge (line : List Char) :
    RecalledEntry.ofLine line ≠ .error .valueTooLarge := by
  unfold RecalledEntry.ofLine
  intro h
  split at h
  · cases h
  · cases h
  · rename_i value _ _
    obtain hfailed | ⟨_, _, hentry⟩ := bind_eq_error.1 h
    · exact readValueText_ne_valueTooLarge value hfailed
    · cases hentry

/-- A value that is too large is what stops the reader. -/
theorem HistoryFormat.read_eq_valueTooLarge_iff :
    format.read line = .error .valueTooLarge ↔ format.IsStoppedBy line := by
  cases format with
  | text => exact iff_of_false (ofLine_ne_valueTooLarge line) id
  | jsonl =>
    show RecalledEntry.ofJson line = _ ↔ _
    unfold RecalledEntry.ofJson IsStoppedBy
    cases hparse : Json.parse line with
    | error e =>
      constructor
      · intro h
        cases h
      · rintro ⟨data, n, hdata, -⟩
        exact absurd (hparse.symm.trans hdata) (by simp)
    | ok data =>
      simp only [ofObject_eq_valueTooLarge_iff, valueOfJson_eq_valueTooLarge_iff]
      constructor
      · rintro ⟨v, hv, n, rfl, hn⟩
        exact ⟨data, n, hparse, hv, hn⟩
      · rintro ⟨data', n, hdata, hv, hn⟩
        cases hparse.symm.trans hdata
        exact ⟨_, hv, n, rfl, hn⟩

theorem EntryFailure.isSkipped_iff : e.isSkipped = true ↔ e ≠ .valueTooLarge := by
  cases e <;> simp [isSkipped]

end Lines

/-! ## All lines of a file -/

namespace Recollection

variable {format : HistoryFormat} {line : List Char} {lines before : List (List Char)}

/-- What the next line adds: an entry, nothing, or an end. -/
theorem ofLines_cons (format : HistoryFormat) (line : List Char) (lines : List (List Char)) :
    (format.IsStoppedBy line →
      ofLines format (line :: lines) = { failure? := some .valueTooLarge }) ∧
    (¬ format.IsStoppedBy line →
      (ofLines format (line :: lines)).entries =
        (format.entryOf? line).toList ++ (ofLines format lines).entries ∧
      (ofLines format (line :: lines)).failure? = (ofLines format lines).failure?) := by
  rw [← HistoryFormat.read_eq_valueTooLarge_iff, ofLines, HistoryFormat.entryOf?]
  cases hread : format.read line with
  | ok e =>
    simp [Except.toOption]
  | error e =>
    by_cases hskipped : e.isSkipped = true
    · have hne := EntryFailure.isSkipped_iff.1 hskipped
      simp [hskipped, hne, Except.toOption]
    · have heq : e = .valueTooLarge := by
        by_contra hne
        exact hskipped (EntryFailure.isSkipped_iff.2 hne)
      subst heq
      simp [EntryFailure.isSkipped]

/-- Lines that do not stop the reader give their entries, and then the others are read. -/
theorem ofLines_append (h : ∀ line ∈ before, ¬ format.IsStoppedBy line)
    (lines : List (List Char)) :
    (ofLines format (before ++ lines)).entries =
      before.filterMap format.entryOf? ++ (ofLines format lines).entries ∧
    (ofLines format (before ++ lines)).failure? = (ofLines format lines).failure? := by
  induction before with
  | nil => exact ⟨rfl, rfl⟩
  | cons first before ih =>
    obtain ⟨hfirst, hrest⟩ := List.forall_mem_cons.1 h
    obtain ⟨hentries, hfailure⟩ := (ofLines_cons format first (before ++ lines)).2 hfirst
    obtain ⟨ihentries, ihfailure⟩ := ih hrest
    rw [List.cons_append, hentries, hfailure, ihentries, ihfailure, List.filterMap_cons]
    cases format.entryOf? first <;> exact ⟨rfl, rfl⟩

theorem ofLines_of_not_isStoppedBy (h : ∀ line ∈ lines, ¬ format.IsStoppedBy line) :
    (ofLines format lines).entries = lines.filterMap format.entryOf? ∧
      (ofLines format lines).failure? = none := by
  have hall := ofLines_append h []
  rw [List.append_nil] at hall
  exact ⟨hall.1.trans (List.append_nil _), hall.2⟩

/-- What stands before a line that stops the reader is not lost, and nothing behind it is read. -/
theorem ofLines_of_isStoppedBy (hbefore : ∀ line ∈ before, ¬ format.IsStoppedBy line)
    (hline : format.IsStoppedBy line) :
    (ofLines format (before ++ line :: lines)).entries = before.filterMap format.entryOf? ∧
      (ofLines format (before ++ line :: lines)).failure? = some .valueTooLarge := by
  obtain ⟨hentries, hfailure⟩ := ofLines_append hbefore (line :: lines)
  rw [hentries, hfailure, (ofLines_cons format line lines).1 hline]
  exact ⟨List.append_nil _, rfl⟩

/-- The reader gets to the end if no line stops it. -/
theorem failure?_ofLines_eq_none_iff :
    (ofLines format lines).failure? = none ↔ ∀ line ∈ lines, ¬ format.IsStoppedBy line := by
  refine ⟨fun hend => ?_, fun h => (ofLines_of_not_isStoppedBy h).2⟩
  induction lines with
  | nil => simp
  | cons line lines ih =>
    obtain ⟨hstopped, hpassed⟩ := ofLines_cons format line lines
    by_cases hline : format.IsStoppedBy line
    · rw [hstopped hline] at hend
      cases hend
    · rw [(hpassed hline).2] at hend
      exact List.forall_mem_cons.2 ⟨hline, ih hend⟩

theorem failure?_ofLines_append_eq_none_iff :
    (ofLines format (before ++ lines)).failure? = none ↔
      (∀ line ∈ before, ¬ format.IsStoppedBy line) ∧ (ofLines format lines).failure? = none := by
  rw [failure?_ofLines_eq_none_iff, List.forall_mem_append, failure?_ofLines_eq_none_iff]

end Recollection

/-! ## Every file -/

/-- **A bad line hides nothing**, unless its value is beyond all doubles.  Whatever a file holds, it
is read to its end and gives the entries of just those of its lines that write one, in order, if and
only if no line stops the reader; lines of text never do.  Of a line that does, nothing is lost that
stands before it, and nothing is read behind it. -/
theorem history_read_unless_stopped (format : HistoryFormat) (content : List Char) :
    let found := Recollection.ofContent format content
    (found.entries = (entryLines content).filterMap format.entryOf? ∧ found.failure? = none ↔
      ∀ line ∈ entryLines content, ¬ format.IsStoppedBy line) ∧
    ∀ before line after, entryLines content = before ++ line :: after →
      (∀ line ∈ before, ¬ format.IsStoppedBy line) → format.IsStoppedBy line →
      found.entries = before.filterMap format.entryOf? ∧ found.failure? = some .valueTooLarge := by
  intro found
  have hfound : found = Recollection.ofLines format (entryLines content) := rfl
  rw [hfound]
  constructor
  · constructor
    · rintro ⟨-, hend⟩
      exact Recollection.failure?_ofLines_eq_none_iff.1 hend
    · exact Recollection.ofLines_of_not_isStoppedBy
  · intro before line after hlines hbefore hline
    rw [hlines]
    exact Recollection.ofLines_of_isStoppedBy hbefore hline

/-- A line of JSON whose value has three hundred and ten digits. -/
def hugeLine : List Char :=
  "\x7b\"expression\": \"1+1\", \"result\": 1".toList ++ List.replicate 309 '0' ++ ['\x7d']

/-- A line of JSON that writes an entry. -/
def plainLine : List Char := "\x7b\"expression\": \"2\", \"result\": \"2.0\"\x7d".toList

/-- A line with a huge value hides the entry behind it. -/
theorem huge_value_hides_entry :
    let content := linesText [hugeLine, plainLine]
    let found := Recollection.ofContent .jsonl content
    entryLines content = [hugeLine, plainLine] ∧
      (HistoryFormat.jsonl.entryOf? plainLine).isSome = true ∧
      found.entries.isEmpty = true ∧ found.failure? = some .valueTooLarge := by
  decide +kernel

end DeskCalculator
