import DeskCalculator.Proofs.History.Reading
import DeskCalculator.Proofs.History.Recording

/-!
# What a journal can be told

A journal takes any expression, also one that no session would tell it of.  The JSON format gives
each of them back.  A line of text gives back those that it can hold: there may be blanks and equals
signs in an expression, but no line end, and no blank at its beginning.

* `RecalledEntry.splitAtEquals?_eq_some` — the last equals sign cuts a line into two parts.
* `Recollection.fitsLine_of_mem_entries` — a file of text has no entry that a line could not hold.
* `Recollection.map_pair_ofContent_eq_iff` — so it gives back what was written to it only if each
  line could hold its expression.
* `told_history_read_back` — a new journal gives back what it is told under just this condition.
-/

namespace DeskCalculator

/-! ## Lines of text -/

section TextLines

variable {s line before after : List Char} {r : RecalledEntry}

/-- What the cut leaves is the whole text. -/
theorem RecalledEntry.splitAtEquals?_eq_some
    (h : RecalledEntry.splitAtEquals? s = some (before, after)) : s = before ++ '=' :: after := by
  have hcut := (List.takeWhile_append_dropWhile (p := (· != '=')) (l := s.reverse)).symm
  have hhead := not_of_head_dropWhile (· != '=') s.reverse
  unfold RecalledEntry.splitAtEquals? at h
  split at h
  · cases h
  · rename_i c front hdrop
    cases h
    rw [hdrop] at hcut hhead
    have hc : c = '=' := by simpa using hhead c rfl
    have hs := congrArg List.reverse hcut
    rw [List.reverse_reverse, hc] at hs
    simpa using hs

/-- An entry read from a line of text has what stands before the last equals sign. -/
theorem RecalledEntry.exists_of_ofLine_eq_ok (h : RecalledEntry.ofLine line = .ok r) :
    ∃ before after, line = before ++ '=' :: after ∧ before ≠ [] ∧
      r.expression = .string before := by
  unfold RecalledEntry.ofLine at h
  split at h
  · cases h
  · cases h
  · rename_i before after hne hsplit
    obtain ⟨v, -, hentry⟩ := bind_eq_ok.1 h
    cases hentry
    exact ⟨before, after, splitAtEquals?_eq_some hsplit, fun heq => hne (by rw [heq]), rfl⟩

/-- What is read from a whole line could have been written on it. -/
theorem IsWholeLine.fitsLine_of_ofLine (h : IsWholeLine line)
    (hread : RecalledEntry.ofLine line = .ok r) :
    ∃ s, r.expression = .string s ∧ FitsLine s := by
  obtain ⟨before, after, rfl, hne, hexpression⟩ := RecalledEntry.exists_of_ofLine_eq_ok hread
  refine ⟨before, hexpression, hne, fun c hc => ?_, fun c hc => h.head c ?_⟩
  · exact h.no_line_end c (List.mem_append_left _ hc)
  · rwa [List.head?_append_of_ne_nil _ hne]

end TextLines

/-! ## Files of text -/

namespace Recollection

variable {content : List Char} {entries : List HistoryEntry}

/-- A file of text is read to its end, and its entries are those of its lines. -/
theorem ofContent_text (content : List Char) :
    (ofContent .text content).entries =
        (entryLines content).filterMap HistoryFormat.text.entryOf? ∧
      (ofContent .text content).failure? = none :=
  ofLines_of_not_isStoppedBy fun _ _ => id

/-- Whatever a file holds, as a history in text it has no entry that a line could not hold. -/
theorem fitsLine_of_mem_entries {r : RecalledEntry} (h : r ∈ (ofContent .text content).entries) :
    ∃ s, r.expression = .string s ∧ FitsLine s := by
  rw [(ofContent_text content).1] at h
  obtain ⟨line, hline, hread⟩ := List.mem_filterMap.1 h
  exact (isWholeLine_of_mem_entryLines hline).fitsLine_of_ofLine
    (HistoryFormat.entryOf?_eq_some_iff.1 hread)

/-- A file to which entries were written is read to its end, whatever they are. -/
theorem failure?_ofContent_content (format : HistoryFormat) (entries : List HistoryEntry) :
    (ofContent format (format.content entries)).failure? = none := by
  cases format with
  | text => exact (ofContent_text _).2
  | jsonl => rw [ofContent_content .jsonl fun _ _ => trivial]

/-- It gives back their expressions and values, if and only if its lines can hold them. -/
theorem map_pair_ofContent_eq_iff (format : HistoryFormat) (entries : List HistoryEntry) :
    (ofContent format (format.content entries)).entries.map (fun r => (r.expression, r.value)) =
        entries.map (fun e => (.string e.expression, e.value)) ↔
      ∀ e ∈ entries, format.Holds e.expression := by
  constructor
  · intro hsame e he
    cases format with
    | jsonl => trivial
    | text =>
      -- the entry is found again, and what is found fits a line
      have hmem : (.string e.expression, e.value) ∈
          (ofContent .text (HistoryFormat.text.content entries)).entries.map
            (fun r => (r.expression, r.value)) := by
        rw [hsame]
        exact List.mem_map_of_mem he
      obtain ⟨r, hr, hpair⟩ := List.mem_map.1 hmem
      obtain ⟨s, hs, hfits⟩ := fitsLine_of_mem_entries hr
      have hexpression : Json.string s = .string e.expression := hs ▸ congrArg Prod.fst hpair
      cases hexpression
      exact hfits
  · intro hholds
    rw [ofContent_content format hholds, List.map_map]
    exact List.map_congr_left fun e _ => format.recalled_pair e

end Recollection

/-! ## The journal -/

/-- **A new journal gives back what its lines can hold.**  Open a journal in either format on an
emptied file, tell it of any calculations, whatever the time is and however far the worker gets
between two of them, and close it.  Then the worker has stopped, and the file is read to its end.
It gives back each expression with its very value, in order, if and only if a line of the format
can hold every expression: in JSON always, in text if each has a first character that is no blank,
and no line end in it. -/
theorem told_history_read_back {tree opened : FileTree} {path : FilePath}
    {format : HistoryFormat} {journal : Journal}
    (hopen : Journal.open? tree path format true = (opened, .ok journal))
    (clock : Nat → List Char) (pace : Nat → Journal → Nat) (told : List Notification)
    (timeout : List Char) :
    let reached := told.foldl
      (fun state n => ((Journal.sink clock pace).notify state n).state) (journal, opened, 0)
    let closed := reached.1.close reached.2.1 timeout
    let found := closed.1.recollect closed.2.1
    closed.1.worker.isGone = true ∧ found.failure? = none ∧
      (found.entries.map (fun r => (r.expression, r.value)) =
          told.map (fun n => (.string n.expression, n.value)) ↔
        ∀ n ∈ told, format.Holds n.expression) := by
  intro reached closed found
  obtain ⟨hgone, hplace, hformat, hcontent⟩ :=
    (Journal.keeps_of_open hopen).close_hearAll clock pace told timeout
  have hfound : found =
      Recollection.ofContent format (format.content (stampedEntries clock told)) := by
    show Journal.recollect closed.1 closed.2.1 = _
    rw [Journal.recollect, hplace, hcontent, hformat]
    rfl
  have hentries := map_notification_stampedEntries clock told
  have hpairs : told.map (fun n => (Json.string n.expression, n.value)) =
      (stampedEntries clock told).map (fun e => (.string e.expression, e.value)) := by
    conv_lhs => rw [← hentries]
    rw [List.map_map]
    rfl
  have hholds : (∀ n ∈ told, format.Holds n.expression) ↔
      ∀ e ∈ stampedEntries clock told, format.Holds e.expression := by
    conv_lhs => rw [← hentries]
    exact List.forall_mem_map
  refine ⟨hgone, ?_, ?_⟩
  · rw [hfound]
    exact Recollection.failure?_ofContent_content format _
  · rw [hfound, hpairs, hholds]
    exact Recollection.map_pair_ofContent_eq_iff format _

/-- The theorem at a journal in text that is told of an equation and of an expression with a blank
at its end, beside a worker that is not done when the journal is closed. -/
theorem told_history_read_back_equation :
    let told : List Notification := [⟨"x = 1 == 2".toList, nanFloat⟩, ⟨"-0 ".toList, -0.0⟩]
    let sink := Journal.sink (fun _ => "noon".toList) fun turn _ => turn
    ∃ opened journal,
      Journal.open? {} (.ofText "logs/session".toList) .text true = (opened, .ok journal) ∧
      let reached := told.foldl (fun state n => (sink.notify state n).state) (journal, opened, 0)
      let closed := reached.1.close reached.2.1 "2.0".toList
      let found := closed.1.recollect closed.2.1
      closed.1.worker.isGone = true ∧ found.failure? = none ∧
        found.entries.map (fun r => (r.expression, r.value)) =
          [(.string "x = 1 == 2".toList, nanFloat), (.string "-0 ".toList, -0.0)] := by
  intro told sink
  obtain ⟨opened, journal, hopen⟩ : ∃ opened journal,
      Journal.open? {} (.ofText "logs/session".toList) .text true = (opened, .ok journal) :=
    ⟨_, _, rfl⟩
  have hholds : ∀ n ∈ told, HistoryFormat.text.Holds n.expression := by
    have hequation : ∀ c ∈ "x = 1 == 2".toList, (c != '\n' && c != '\r') = true :=
      List.all_eq_true.1 rfl
    have hnegated : ∀ c ∈ "-0 ".toList, (c != '\n' && c != '\r') = true :=
      List.all_eq_true.1 rfl
    refine List.forall_mem_cons.2 ⟨?_, List.forall_mem_singleton.2 ?_⟩
    · exact ⟨by decide, fun c hc => by simpa using hequation c hc, fun c hc => by cases hc; rfl⟩
    · exact ⟨by decide, fun c hc => by simpa using hnegated c hc, fun c hc => by cases hc; rfl⟩
  obtain ⟨hgone, hfailure, hpairs⟩ := told_history_read_back hopen
    (fun _ => "noon".toList) (fun turn _ => turn) told "2.0".toList
  exact ⟨opened, journal, hopen, hgone, hfailure, hpairs.2 hholds⟩

end DeskCalculator
