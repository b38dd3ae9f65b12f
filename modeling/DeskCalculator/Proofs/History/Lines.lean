import DeskCalculator.History.Journal
import DeskCalculator.Proofs.Decimal.FullText
import DeskCalculator.Proofs.Json.Texts
import Mathlib.Data.List.Basic

/-!
# The lines of a history

An entry is written on a line of its own, and the reader of a file finds exactly these lines again
and in each of them the entry.

* `IsWholeLine` — a line that the reader of a file leaves as it is.
* `isWholeLine_of_mem_entryLines` — it takes no others from a file, whatever that holds.
* `entryLines_linesText` — such lines are found again in a file that has one after the other.
* `HistoryFormat.Holds` — the expressions that a line of a format can hold.
* `HistoryFormat.read_write` — an entry is read from its line, in either format.
* `json_entry_round_trips` — in JSON any entry is, and its line is plain.
* `Recollection.ofContent_content` — so a file gives back the entries that were written to it.
-/

namespace DeskCalculator

/-! ## Lines that stay whole -/

section WholeLines

variable {line s rest : List Char} {lines : List (List Char)}

/-- A line that the reader of a file leaves as it is: it has no line end in it, and something that
is no blank at both ends. -/
structure IsWholeLine (line : List Char) : Prop where
  ne_nil : line ≠ []
  no_line_end : ∀ c ∈ line, c ≠ '\n' ∧ c ≠ '\r'
  head : ∀ c ∈ line.head?, isBlank c = false
  last : ∀ c ∈ line.getLast?, isBlank c = false

/-- The text of lines, each with a line feed behind it. -/
def linesText (lines : List (List Char)) : List Char := lines.flatMap fun line => line ++ ['\n']

theorem linesText_cons (line : List Char) (lines : List (List Char)) :
    linesText (line :: lines) = line ++ '\n' :: linesText lines := by
  simp [linesText]

/-- A text without carriage returns stays as it is. -/
theorem unifyLineEnds_append_of_no_return (h : ∀ c ∈ s, c ≠ '\r') (rest : List Char) :
    unifyLineEnds (s ++ rest) = s ++ unifyLineEnds rest := by
  induction s with
  | nil => rfl
  | cons c s ih =>
    obtain ⟨hc, hs⟩ := List.forall_mem_cons.1 h
    rw [List.cons_append, unifyLineEnds, ih hs, List.cons_append]
    · exact fun _ heq => absurd heq hc
    · exact fun heq => absurd heq hc

theorem unifyLineEnds_eq_self (h : ∀ c ∈ s, c ≠ '\r') : unifyLineEnds s = s := by
  have hall := unifyLineEnds_append_of_no_return h []
  rwa [List.append_nil, unifyLineEnds, List.append_nil] at hall

theorem ne_return_of_mem_unifyLineEnds : ∀ c ∈ unifyLineEnds s, c ≠ '\r' := by
  fun_induction unifyLineEnds s with
  | case1 rest ih | case2 rest hrest ih => exact List.forall_mem_cons.2 ⟨by decide, ih⟩
  | case3 c rest hc hc' ih => exact List.forall_mem_cons.2 ⟨hc', ih⟩
  | case4 => exact fun c hc => absurd hc List.not_mem_nil

/-- A line ends at its line feed. -/
theorem linesFrom_line (h : ∀ c ∈ line, c ≠ '\n') (begun rest : List Char) :
    linesFrom begun (line ++ '\n' :: rest) = (begun.reverse ++ line ++ ['\n']) :: linesOf rest := by
  induction line generalizing begun with
  | nil => simp [linesFrom, linesOf]
  | cons c line ih =>
    obtain ⟨hc, hline⟩ := List.forall_mem_cons.1 h
    rw [List.cons_append, linesFrom, if_neg hc, ih hline]
    simp

/-- A text without a line end is one line, unless it is empty. -/
theorem linesFrom_unfinished (h : ∀ c ∈ s, c ≠ '\n') (begun : List Char) :
    linesFrom begun s = [begun.reverse ++ s].filter (!·.isEmpty) := by
  induction s generalizing begun with
  | nil => cases begun <;> simp [linesFrom]
  | cons c s ih =>
    obtain ⟨hc, hs⟩ := List.forall_mem_cons.1 h
    rw [linesFrom, if_neg hc, ih hs]
    simp

/-- A line has no line feed but the one at its end. -/
theorem exists_of_mem_linesFrom {begun : List Char} (h : line ∈ linesFrom begun s)
    (hbegun : ∀ c ∈ begun, c ≠ '\n') :
    ∃ text, (∀ c ∈ text, c ≠ '\n') ∧ (line = text ∨ line = text ++ ['\n']) := by
  have hreverse : ∀ c ∈ begun.reverse, c ≠ '\n' := fun c hc => hbegun c (List.mem_reverse.1 hc)
  induction s generalizing begun with
  | nil =>
    rw [linesFrom] at h
    split at h
    · cases h
    · rw [List.mem_singleton] at h
      exact ⟨begun.reverse, hreverse, .inl h⟩
  | cons c s ih =>
    rw [linesFrom] at h
    split at h
    · rename_i hc
      rcases List.mem_cons.1 h with hline | hline
      · exact ⟨begun.reverse, hreverse, .inr (by rw [hline, hc, List.reverse_cons])⟩
      · exact ih hline (by simp) (by simp)
    · rename_i hc
      have hmore : ∀ d ∈ c :: begun, d ≠ '\n' := List.forall_mem_cons.2 ⟨hc, hbegun⟩
      exact ih h hmore fun d hd => hmore d (List.mem_reverse.1 hd)

theorem linesOf_linesText (h : ∀ line ∈ lines, ∀ c ∈ line, c ≠ '\n') :
    linesOf (linesText lines) = lines.map fun line => line ++ ['\n'] := by
  induction lines with
  | nil => rfl
  | cons line lines ih =>
    obtain ⟨hline, hlines⟩ := List.forall_mem_cons.1 h
    rw [linesText_cons, linesOf, linesFrom_line hline, ih hlines]
    rfl

/-! ### Trimming -/

/-- A trimmed text begins what is left without the blanks in front. -/
theorem trimBlank_isPrefix (s : List Char) : trimBlank s <+: s.dropWhile isBlank := by
  rw [trimBlank, trimBy, dropWhileEnd, ← List.reverse_suffix, List.reverse_reverse]
  exact List.dropWhile_suffix _

theorem mem_of_mem_trimBlank {c : Char} (h : c ∈ trimBlank s) : c ∈ s :=
  (List.dropWhile_suffix _).subset ((trimBlank_isPrefix s).subset h)

/-- A blank at the end is trimmed. -/
theorem trimBlank_append_blank {c : Char} (hc : isBlank c = true) (s : List Char) :
    trimBlank (s ++ [c]) = trimBlank s := by
  rw [trimBlank, trimBy, List.dropWhile_append]
  split
  · rename_i hempty
    rw [List.isEmpty_iff] at hempty
    simp [trimBy, hempty, hc, dropWhileEnd]
  · simp [trimBy, hc, dropWhileEnd]

theorem not_isBlank_of_head_trimBlank (s : List Char) :
    ∀ c ∈ (trimBlank s).head?, isBlank c = false := by
  intro c hc
  obtain ⟨dropped, hdropped⟩ := trimBlank_isPrefix s
  refine not_of_head_dropWhile isBlank s c ?_
  rw [← hdropped, List.head?_append, Option.mem_def.1 hc]
  rfl

theorem not_isBlank_of_getLast_trimBlank (s : List Char) :
    ∀ c ∈ (trimBlank s).getLast?, isBlank c = false := by
  intro c hc
  rw [trimBlank, trimBy, dropWhileEnd, List.getLast?_reverse] at hc
  exact not_of_head_dropWhile isBlank _ c hc

/-- Without its line feed a whole line is what it was, and so is what stands before it, apart from
the blanks in front. -/
theorem IsWholeLine.trimBlank_append_eq (h : IsWholeLine line) (begun : List Char) :
    trimBlank (begun ++ (line ++ ['\n'])) = begun.dropWhile isBlank ++ line := by
  have hblank : isBlank '\n' = true := rfl
  have hhead : ∀ c ∈ (line ++ ['\n']).head?, isBlank c = false := by
    rw [List.head?_append_of_ne_nil _ h.ne_nil]
    exact h.head
  have hlast : ∀ c ∈ (begun.dropWhile isBlank ++ line).reverse.head?, isBlank c = false := by
    rw [List.head?_reverse, List.getLast?_append_of_ne_nil _ h.ne_nil]
    exact h.last
  have hfront : (begun ++ (line ++ ['\n'])).dropWhile isBlank =
      begun.dropWhile isBlank ++ (line ++ ['\n']) := by
    have hline : (line ++ ['\n']).dropWhile isBlank = line ++ ['\n'] :=
      (takeWhile_dropWhile_append (l := []) (by simp) hhead).2
    rw [List.dropWhile_append]
    split
    · rename_i hempty
      rw [hline, List.isEmpty_iff.1 hempty, List.nil_append]
    · rfl
  have hback : (begun.dropWhile isBlank ++ (line ++ ['\n'])).reverse.dropWhile isBlank =
      (begun.dropWhile isBlank ++ line).reverse := by
    rw [← List.append_assoc, List.reverse_append]
    exact (takeWhile_dropWhile_append (l := ['\n']) (by simp [hblank]) hlast).2
  rw [trimBlank, trimBy, hfront, dropWhileEnd, hback, List.reverse_reverse]

theorem IsWholeLine.trimBlank_eq (h : IsWholeLine line) : trimBlank (line ++ ['\n']) = line :=
  h.trimBlank_append_eq []

/-- A whole line that has not ended is the only line of its file. -/
theorem IsWholeLine.fileLines_eq (h : IsWholeLine line) : fileLines line = [line] := by
  rw [fileLines, unifyLineEnds_eq_self fun c hc => (h.no_line_end c hc).2, linesOf,
    linesFrom_unfinished fun c hc => (h.no_line_end c hc).1]
  simp [h.ne_nil]

/-- The lines of a file as its reader takes them. -/
def entryLines (content : List Char) : List (List Char) :=
  ((fileLines content).map trimBlank).filter fun line => !line.isEmpty

/-- A file of any content has whole lines for its reader. -/
theorem isWholeLine_of_mem_entryLines {content : List Char} (h : line ∈ entryLines content) :
    IsWholeLine line := by
  obtain ⟨hmem, hne⟩ := List.mem_filter.1 h
  obtain ⟨whole, hwhole, rfl⟩ := List.mem_map.1 hmem
  refine ⟨by simpa using hne, fun c hc => ⟨?_, ?_⟩, not_isBlank_of_head_trimBlank whole,
    not_isBlank_of_getLast_trimBlank whole⟩
  · obtain ⟨text, htext, rfl | rfl⟩ := exists_of_mem_linesFrom hwhole (by simp)
    · exact htext c (mem_of_mem_trimBlank hc)
    · rw [trimBlank_append_blank rfl] at hc
      exact htext c (mem_of_mem_trimBlank hc)
  · have hmem : c ∈ unifyLineEnds content := by
      rw [← flatten_linesOf (unifyLineEnds content)]
      exact List.mem_flatten.2 ⟨whole, hwhole, mem_of_mem_trimBlank hc⟩
    exact ne_return_of_mem_unifyLineEnds c hmem

/-- The first line of a file, if it is whole. -/
theorem IsWholeLine.entryLines_append (h : IsWholeLine line) (rest : List Char) :
    entryLines (line ++ '\n' :: rest) = line :: entryLines rest := by
  have hunified : unifyLineEnds (line ++ '\n' :: rest) = line ++ '\n' :: unifyLineEnds rest := by
    rw [unifyLineEnds_append_of_no_return fun c hc => (h.no_line_end c hc).2, unifyLineEnds]
    · exact fun _ heq => absurd heq (by decide)
    · decide
  rw [entryLines, fileLines, hunified, linesOf, linesFrom_line fun c hc => (h.no_line_end c hc).1,
    List.reverse_nil, List.nil_append, List.map_cons, h.trimBlank_eq,
    List.filter_cons_of_pos (by simp [h.ne_nil])]
  rfl

/-- A text without a line end is the only line of its file. -/
theorem entryLines_unfinished (h : ∀ c ∈ s, c ≠ '\n' ∧ c ≠ '\r') :
    entryLines s = [trimBlank s].filter (!·.isEmpty) := by
  rw [entryLines, fileLines, unifyLineEnds_eq_self fun c hc => (h c hc).2, linesOf,
    linesFrom_unfinished fun c hc => (h c hc).1]
  cases s <;> rfl

/-- A whole line that has not ended is taken as it is. -/
theorem IsWholeLine.entryLines_eq (h : IsWholeLine line) : entryLines line = [line] := by
  have htrim : trimBlank line = line := by
    rw [← trimBlank_append_blank (c := '\n') rfl line, h.trimBlank_eq]
  rw [entryLines_unfinished h.no_line_end, htrim]
  exact List.filter_cons_of_pos (by simp [h.ne_nil])

/-- Whole lines have no other line ends between them. -/
theorem unifyLineEnds_linesText (h : ∀ line ∈ lines, IsWholeLine line) :
    unifyLineEnds (linesText lines) = linesText lines := by
  refine unifyLineEnds_eq_self fun c hc => ?_
  obtain ⟨line, hline, hc⟩ := List.mem_flatMap.1 hc
  rcases List.mem_append.1 hc with hc | hc
  · exact ((h line hline).no_line_end c hc).2
  · rw [List.mem_singleton.1 hc]
    decide

/-- Cleared of blanks and of empty lines, whole lines are what they were. -/
theorem filter_map_trimBlank (h : ∀ line ∈ lines, IsWholeLine line) :
    ((lines.map fun line => line ++ ['\n']).map trimBlank).filter (!·.isEmpty) = lines := by
  have htrim : (lines.map fun line => line ++ ['\n']).map trimBlank = lines := by
    rw [List.map_map]
    exact (List.map_congr_left fun line hline => (h line hline).trimBlank_eq).trans
      (List.map_id lines)
  rw [htrim, List.filter_eq_self]
  intro line hline
  simpa using (h line hline).ne_nil

/-- Whole lines are found again in a file that has one after the other. -/
theorem entryLines_linesText (h : ∀ line ∈ lines, IsWholeLine line) :
    entryLines (linesText lines) = lines := by
  induction lines with
  | nil => rfl
  | cons line lines ih =>
    obtain ⟨hline, hlines⟩ := List.forall_mem_cons.1 h
    rw [linesText_cons, hline.entryLines_append, ih hlines]

end WholeLines

/-! ## The line of an entry -/

section Entries

variable {s : List Char} {e : HistoryEntry} {entries : List HistoryEntry}

/-- What the journal was told when it accepted the entry. -/
def HistoryEntry.notification (e : HistoryEntry) : Notification := ⟨e.expression, e.value⟩

/-- What can be written on a line: the expression is a text without blanks.  The value may be any
double, since each is read back from its text. -/
structure Notification.IsRecordable (n : Notification) : Prop where
  expression_ne_nil : n.expression ≠ []
  not_isBlank : ∀ c ∈ n.expression, isBlank c = false

/-- An expression that a line of text can hold: there is one, it has no line end in it, and it does
not begin with a blank.  Further blanks and equals signs do no harm. -/
structure FitsLine (s : List Char) : Prop where
  ne_nil : s ≠ []
  no_line_end : ∀ c ∈ s, c ≠ '\n' ∧ c ≠ '\r'
  head : ∀ c ∈ s.head?, isBlank c = false

/-- An expression that a line of a format can hold.  In JSON every one can be written. -/
def HistoryFormat.Holds : HistoryFormat → List Char → Prop
  | .text, s => FitsLine s
  | .jsonl, _ => True

theorem Notification.IsRecordable.holds {n : Notification} (h : n.IsRecordable)
    (format : HistoryFormat) : format.Holds n.expression := by
  cases format with
  | text =>
    refine ⟨h.expression_ne_nil, fun c hc => ?_, fun c hc => ?_⟩
    · have hblank := h.not_isBlank c hc
      constructor <;> (rintro rfl; cases hblank)
    · exact h.not_isBlank c (List.mem_of_mem_head? hc)
  | jsonl => trivial

/-- What is read back of an entry: a line of text does not tell the time. -/
def HistoryFormat.recalled : HistoryFormat → HistoryEntry → RecalledEntry
  | .text, e => { expression := .string e.expression, value := e.value }
  | .jsonl, e => e.recalled

theorem HistoryFormat.recalled_pair (format : HistoryFormat) (e : HistoryEntry) :
    ((format.recalled e).expression, (format.recalled e).value) =
      (.string e.expression, e.value) := by
  cases format <;> rfl

theorem readValueText_fullText (v : Float) : readValueText (fullText v) = .ok v := by
  rw [readValueText, readFloat?_fullText]

/-- A text is cut at its last equals sign. -/
theorem splitAtEquals?_append {value : List Char} (h : ∀ c ∈ value, c ≠ '=') (s : List Char) :
    RecalledEntry.splitAtEquals? (s ++ '=' :: value) = some (s, value) := by
  have hreverse : (s ++ '=' :: value).reverse = value.reverse ++ '=' :: s.reverse := by simp
  obtain ⟨htake, hdrop⟩ := takeWhile_dropWhile_append (p := (· != '=')) (l := value.reverse)
    (m := '=' :: s.reverse) (by simpa using h) (by simp)
  rw [RecalledEntry.splitAtEquals?, hreverse, htake, hdrop]
  simp

/-- A line of text gives back any expression, as long as there is one. -/
theorem HistoryEntry.ofLine_line (hne : e.expression ≠ []) :
    RecalledEntry.ofLine e.line = .ok (HistoryFormat.text.recalled e) := by
  have hvalue : ∀ c ∈ fullText e.value, c ≠ '=' := fun c hc =>
    (not_of_isNumeralChar (isNumeralChar_of_mem_fullText c hc)).2
  rw [RecalledEntry.ofLine, HistoryEntry.line, splitAtEquals?_append hvalue]
  obtain ⟨c, s, hs⟩ := List.exists_cons_of_ne_nil hne
  simp only [hs, readValueText_fullText, Bind.bind, Except.bind, HistoryFormat.recalled]

/-- The texts of an entry under their keys. -/
def HistoryEntry.texts (e : HistoryEntry) : List (List Char × List Char) :=
  [("expression".toList, e.expression), ("result".toList, fullText e.value),
    ("timestamp".toList, e.timestamp)]

theorem HistoryEntry.json_eq (e : HistoryEntry) :
    e.json = Json.print (.object (Json.textMembers e.texts)) := rfl

theorem HistoryEntry.texts_ne_nil (e : HistoryEntry) : e.texts ≠ [] := List.cons_ne_nil _ _

/-- An entry of any texts and any value is read from its JSON. -/
theorem HistoryEntry.ofJson_json (e : HistoryEntry) :
    RecalledEntry.ofJson e.json = .ok e.recalled := by
  -- no key comes twice, so the members stay as they are
  have hmerge : Json.mergeMembers (Json.textMembers e.texts) = Json.textMembers e.texts := rfl
  have hkeys : (Json.textMembers e.texts).all (fun m => RecalledEntry.isKey m.1) = true := rfl
  have hresult : (Json.object (Json.textMembers e.texts)).get? "result".toList =
      some (.string (fullText e.value)) := rfl
  have hexpression : (Json.object (Json.textMembers e.texts)).get? "expression".toList =
      some (.string e.expression) := rfl
  have htimestamp : (Json.object (Json.textMembers e.texts)).get? "timestamp".toList =
      some (.string e.timestamp) := rfl
  have hvalue : valueOfJson (.string (fullText e.value)) = .ok e.value :=
    readValueText_fullText e.value
  rw [RecalledEntry.ofJson, e.json_eq, Json.parse_print_texts e.texts_ne_nil, hmerge]
  simp only [RecalledEntry.ofObject, hresult, hvalue, hkeys, hexpression, htimestamp, Bind.bind,
    Except.bind]
  rfl

/-- An entry is read from its line. -/
theorem HistoryFormat.read_write (format : HistoryFormat) (h : format.Holds e.expression) :
    format.read (format.write e) = .ok (format.recalled e) := by
  cases format with
  | text => exact HistoryEntry.ofLine_line h.ne_nil
  | jsonl => exact e.ofJson_json

theorem HistoryEntry.isWholeLine_line (h : FitsLine e.expression) : IsWholeLine e.line := by
  have hvalue : ∀ c ∈ '=' :: fullText e.value, isBlank c = false :=
    List.forall_mem_cons.2 ⟨rfl, fun c hc =>
      (not_of_isNumeralChar (isNumeralChar_of_mem_fullText c hc)).1⟩
  refine ⟨by simp [HistoryEntry.line], ?_, fun c hc => ?_, fun c hc => ?_⟩
  · refine List.forall_mem_append.2 ⟨h.no_line_end, fun c hc => ?_⟩
    have hblank := hvalue c hc
    constructor <;> (rintro rfl; cases hblank)
  · rw [HistoryEntry.line, List.head?_append_of_ne_nil _ h.ne_nil] at hc
    exact h.head c hc
  · rw [HistoryEntry.line, List.getLast?_append_of_ne_nil _ (List.cons_ne_nil _ _)] at hc
    exact hvalue c (List.mem_of_getLast? hc)

theorem HistoryEntry.json_eq_cons (e : HistoryEntry) :
    e.json = '\x7b' :: Json.printMembers (Json.textMembers e.texts) := by
  rw [e.json_eq, Json.print]

theorem HistoryEntry.isPlain_json (e : HistoryEntry) : ∀ c ∈ e.json, Json.IsPlain c := by
  rw [e.json_eq_cons]
  exact List.forall_mem_cons.2 ⟨⟨by decide, by decide⟩, Json.isPlain_printMembers _⟩

theorem HistoryEntry.isWholeLine_json (e : HistoryEntry) : IsWholeLine e.json := by
  have hjson := e.json_eq_cons
  refine ⟨by simp [hjson], fun c hc => ?_, fun c hc => ?_, fun c hc => ?_⟩
  · have hlow := (e.isPlain_json c hc).1
    constructor <;> (rintro rfl; exact absurd hlow (by decide))
  · rw [hjson] at hc
    cases hc
    rfl
  · rw [hjson, List.getLast?_cons, Json.getLast?_printMembers] at hc
    cases hc
    rfl

/-- **Entries in JSON round trip.**  Whatever the texts and the value of an entry are, its JSON is one
line of printable ASCII, and the entry with the same texts and the same value is read from it. -/
theorem json_entry_round_trips (e : HistoryEntry) :
    RecalledEntry.ofJson e.json = .ok e.recalled ∧ (∀ c ∈ e.json, Json.IsPlain c) ∧
      fileLines e.json = [e.json] :=
  ⟨e.ofJson_json, e.isPlain_json, e.isWholeLine_json.fileLines_eq⟩

theorem HistoryFormat.isWholeLine_write (format : HistoryFormat)
    (h : format.Holds e.expression) : IsWholeLine (format.write e) := by
  cases format with
  | text => exact HistoryEntry.isWholeLine_line h
  | jsonl => exact e.isWholeLine_json

/-! ## The file of a history -/

/-- What a file holds to which entries were written. -/
def HistoryFormat.content (format : HistoryFormat) (entries : List HistoryEntry) : List Char :=
  linesText (entries.map format.write)

theorem HistoryFormat.content_append (format : HistoryFormat) (entries more : List HistoryEntry) :
    format.content (entries ++ more) = format.content entries ++ format.content more := by
  simp [content, linesText]

theorem HistoryFormat.content_singleton (format : HistoryFormat) (e : HistoryEntry) :
    format.content [e] = format.write e ++ ['\n'] := by
  simp [content, linesText]

theorem Recollection.ofLines_write (format : HistoryFormat)
    (h : ∀ e ∈ entries, format.Holds e.expression) :
    Recollection.ofLines format (entries.map format.write) =
      { entries := entries.map format.recalled } := by
  induction entries with
  | nil => rfl
  | cons e entries ih =>
    obtain ⟨he, hentries⟩ := List.forall_mem_cons.1 h
    rw [List.map_cons, Recollection.ofLines, format.read_write he, ih hentries]
    rfl

/-- A file gives back the entries that were written to it, in order, and complains of nothing. -/
theorem Recollection.ofContent_content (format : HistoryFormat)
    (h : ∀ e ∈ entries, format.Holds e.expression) :
    Recollection.ofContent format (format.content entries) =
      { entries := entries.map format.recalled } := by
  have hlines : entryLines (format.content entries) = entries.map format.write :=
    entryLines_linesText (by simpa using fun e he => format.isWholeLine_write (h e he))
  show Recollection.ofLines format (entryLines (format.content entries)) = _
  rw [hlines, Recollection.ofLines_write format h]

end Entries

end DeskCalculator
