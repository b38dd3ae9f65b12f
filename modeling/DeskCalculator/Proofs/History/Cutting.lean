import DeskCalculator.Proofs.History.Reading
import DeskCalculator.Proofs.History.Recording
import DeskCalculator.Proofs.Json.Unfinished

/-!
# A history that is cut off

When a machine stops in the middle of a write, the end of a file may be missing.  The lines before
the cut are whole, and behind them stands a part of one line at most.  In JSON a part of a line is
no value, so the reader passes over it: it never takes a part of an entry for an entry.

* `entryLines_take_linesText` — the lines of a file that is cut off.
* `HistoryEntry.ofJson_part` — a part of an entry in JSON is no value.
* `Recollection.ofContent_take_content` — so a file of JSON gives back the entries before the cut.
* `cut_history_read_back` — and the file of a journal does, wherever it is cut off.
-/

namespace DeskCalculator

/-! ## Lines before a cut -/

section Lines

variable {line : List Char} {lines : List (List Char)}

/-- A line that is cut off leaves a part of it, or nothing. -/
theorem IsWholeLine.part_of_mem_entryLines_take (h : IsWholeLine line) {cut : Nat}
    (hcut : cut < line.length) {part : List Char} (hpart : part ∈ entryLines (line.take cut)) :
    part <+: line ∧ part ≠ line := by
  rw [entryLines_unfinished fun c hc => h.no_line_end c (List.mem_of_mem_take hc)] at hpart
  obtain rfl : part = trimBlank (line.take cut) :=
    List.mem_singleton.1 (List.mem_of_mem_filter hpart)
  -- the line begins with something that is no blank, so only the other end is trimmed
  have hfront : (line.take cut).dropWhile isBlank = line.take cut := by
    refine (takeWhile_dropWhile_append (l := []) (by simp) fun c hc => h.head c ?_).2
    rw [List.head?_take] at hc
    split at hc
    · cases hc
    · exact hc
  have htrimmed := trimBlank_isPrefix (line.take cut)
  rw [hfront] at htrimmed
  refine ⟨htrimmed.trans (List.take_prefix _ _), fun heq => ?_⟩
  have hlength := htrimmed.length_le
  rw [heq, List.length_take] at hlength
  omega

/-- In a file of whole lines that is cut off the reader finds the lines that end before the cut,
also one whose line feed alone is missing, and behind them a part of another line at most. -/
theorem entryLines_take_linesText (h : ∀ line ∈ lines, IsWholeLine line) (cut : Nat) :
    ∃ kept lost torn, lines = kept ++ lost ∧
      entryLines ((linesText lines).take cut) = kept ++ torn ∧
      (linesText kept).length ≤ cut + 1 ∧
      (∀ line ∈ lost.head?, cut + 1 < (linesText (kept ++ [line])).length) ∧
      ∀ part ∈ torn, ∃ line ∈ lines, part <+: line ∧ part ≠ line := by
  induction lines generalizing cut with
  | nil =>
    have hread : entryLines ((linesText []).take cut) = [] := by
      rw [linesText, List.flatMap_nil, List.take_nil]
      rfl
    exact ⟨[], [], [], rfl, hread, Nat.zero_le _, by simp, by simp⟩
  | cons line lines ih =>
    obtain ⟨hline, hlines⟩ := List.forall_mem_cons.1 h
    rw [linesText_cons]
    rcases Nat.lt_trichotomy cut line.length with hcut | hcut | hcut
    · -- the cut is in the first line
      refine ⟨[], line :: lines, entryLines (line.take cut), rfl, ?_, Nat.zero_le _, ?_,
        fun part hpart => ?_⟩
      · rw [List.take_append_of_le_length hcut.le, List.nil_append]
      · simpa [linesText] using hcut
      · exact ⟨line, List.mem_cons_self, hline.part_of_mem_entryLines_take hcut hpart⟩
    · -- only the line feed of the first line is missing
      refine ⟨[line], lines, [], rfl, ?_, ?_, fun next _ => ?_, by simp⟩
      · rw [List.take_left' hcut.symm, hline.entryLines_eq, List.append_nil]
      · simp [linesText, hcut]
      · simp only [linesText, List.flatMap_append, List.flatMap_singleton, List.length_append,
          List.length_singleton]
        omega
    · -- the first line has ended
      obtain ⟨behind, rfl⟩ := Nat.exists_eq_add_of_lt hcut
      obtain ⟨kept, lost, torn, hsplit, hread, hkept, hlost, htorn⟩ := ih hlines behind
      have htake : (line ++ '\n' :: linesText lines).take (line.length + behind + 1) =
          line ++ '\n' :: (linesText lines).take behind := by
        rw [Nat.add_assoc, List.take_length_add_append, List.take_succ_cons]
      refine ⟨line :: kept, lost, torn, by rw [hsplit, List.cons_append], ?_, ?_,
        fun next hnext => ?_, fun part hpart => ?_⟩
      · rw [htake, hline.entryLines_append, hread, List.cons_append]
      · rw [linesText_cons, List.length_append, List.length_cons]
        omega
      · have hlonger := hlost next hnext
        rw [List.cons_append, linesText_cons, List.length_append, List.length_cons]
        omega
      · obtain ⟨whole, hwhole, hpart⟩ := htorn part hpart
        exact ⟨whole, List.mem_cons_of_mem _ hwhole, hpart⟩

end Lines

/-! ## Parts of an entry -/

/-- A part of an entry in JSON is no value. -/
theorem HistoryEntry.ofJson_part (e : HistoryEntry) {part : List Char} (hbegins : part <+: e.json)
    (hne : part ≠ e.json) : ∃ failure, RecalledEntry.ofJson part = .error (.json failure) := by
  obtain ⟨more, hwhole⟩ := hbegins
  rw [RecalledEntry.ofJson]
  cases hparse : Json.parse part with
  | error failure => exact ⟨failure, rfl⟩
  | ok v =>
    have hmore : more = [] := Json.parse_part e.texts_ne_nil hparse hwhole
    rw [hmore, List.append_nil] at hwhole
    exact absurd hwhole hne

theorem HistoryEntry.byteSize_of_mem_json (e : HistoryEntry) {c : Char} (hc : c ∈ e.json) :
    byteSize c = 1 := by
  have hplain : c.val.toNat < 0x7F := (e.isPlain_json c hc).2
  rw [byteSize, Char.utf8Size, if_pos]
  exact UInt32.le_iff_toNat_le.2 (Nat.le_of_lt hplain)

/-- A file of JSON has one byte for each character. -/
theorem HistoryFormat.byteSize_of_mem_content {entries : List HistoryEntry} {c : Char}
    (hc : c ∈ HistoryFormat.jsonl.content entries) : byteSize c = 1 := by
  obtain ⟨line, hline, hc⟩ := List.mem_flatMap.1 hc
  obtain ⟨e, -, rfl⟩ := List.mem_map.1 hline
  rcases List.mem_append.1 hc with hc | hc
  · exact e.byteSize_of_mem_json hc
  · rw [List.mem_singleton.1 hc]
    rfl

namespace Recollection

/-- The reader passes over a line with a part of an entry. -/
theorem ofLines_parts {lines : List (List Char)}
    (h : ∀ part ∈ lines, ∃ e : HistoryEntry, part <+: e.json ∧ part ≠ e.json) :
    (ofLines .jsonl lines).entries = [] ∧ (ofLines .jsonl lines).failure? = none := by
  have hread : ∀ part ∈ lines, ∃ failure,
      HistoryFormat.jsonl.read part = .error (.json failure) := by
    intro part hpart
    obtain ⟨e, hbegins, hne⟩ := h part hpart
    exact e.ofJson_part hbegins hne
  have hpassed : ∀ part ∈ lines, ¬ HistoryFormat.jsonl.IsStoppedBy part := by
    intro part hpart hstopped
    obtain ⟨failure, hfailure⟩ := hread part hpart
    cases hfailure.symm.trans (HistoryFormat.read_eq_valueTooLarge_iff.2 hstopped)
  obtain ⟨hentries, hfailure⟩ := ofLines_of_not_isStoppedBy hpassed
  refine ⟨?_, hfailure⟩
  rw [hentries, List.filterMap_eq_nil_iff]
  intro part hpart
  obtain ⟨failure, hfailure⟩ := hread part hpart
  rw [HistoryFormat.entryOf?, hfailure]
  rfl

/-- What is read of a file of JSON that is cut off: just the entries whose lines end before the
cut. -/
theorem ofContent_take_content (entries : List HistoryEntry) (cut : Nat) :
    let found := ofContent .jsonl ((HistoryFormat.jsonl.content entries).take cut)
    found.failure? = none ∧
      ∃ kept lost, entries = kept ++ lost ∧ found.entries = kept.map HistoryEntry.recalled ∧
        (HistoryFormat.jsonl.content kept).length ≤ cut + 1 ∧
        ∀ e ∈ lost.head?, cut + 1 < (HistoryFormat.jsonl.content (kept ++ [e])).length := by
  intro found
  have hwhole : ∀ line ∈ entries.map HistoryFormat.jsonl.write, IsWholeLine line :=
    List.forall_mem_map.2 fun e _ => e.isWholeLine_json
  obtain ⟨keptLines, lostLines, torn, hsplit, hread, hkept, hlost, htorn⟩ :=
    entryLines_take_linesText hwhole cut
  obtain ⟨kept, lost, rfl, rfl, rfl⟩ := List.map_eq_append_iff.1 hsplit
  have hparts : ∀ part ∈ torn, ∃ e : HistoryEntry, part <+: e.json ∧ part ≠ e.json := by
    intro part hpart
    obtain ⟨line, hline, hpart⟩ := htorn part hpart
    obtain ⟨e, -, rfl⟩ := List.mem_map.1 hline
    exact ⟨e, hpart⟩
  have hfound : found = ofLines .jsonl (kept.map HistoryFormat.jsonl.write ++ torn) :=
    congrArg (ofLines .jsonl) hread
  have hwritten : ofLines .jsonl (kept.map HistoryFormat.jsonl.write) =
      { entries := kept.map HistoryEntry.recalled } := ofLines_write .jsonl fun _ _ => trivial
  have hpassed : ∀ line ∈ kept.map HistoryFormat.jsonl.write,
      ¬ HistoryFormat.jsonl.IsStoppedBy line :=
    failure?_ofLines_eq_none_iff.1 (by rw [hwritten])
  obtain ⟨hentries, hfailure⟩ := ofLines_append hpassed torn
  obtain ⟨hnothing, hend⟩ := ofLines_parts hparts
  rw [← (ofLines_of_not_isStoppedBy hpassed).1, hwritten, hnothing, List.append_nil] at hentries
  refine ⟨by rw [hfound, hfailure, hend], kept, lost, rfl, by rw [hfound, hentries], hkept,
    fun e he => ?_⟩
  rw [HistoryFormat.content, List.map_append]
  exact hlost _ (by rw [List.head?_map, Option.mem_def.1 he]; rfl)

end Recollection

/-! ## The file of a journal -/

/-- **A history that is cut off has no false entry.**  Open a journal in JSON, on a file that is
emptied or on one that such journals wrote, tell it of any calculations, whatever the time is and
however far the worker gets between two of them, and close it.  Then the file holds the old entries
and the new ones, one byte for each character.  Cut it off anywhere: it is still read to its end,
and gives back in order just the entries whose lines end before the cut, with or without their line
feeds, and nothing for what is left of the next one. -/
theorem cut_history_read_back {tree opened : FileTree} {path : FilePath} {truncate : Bool}
    {journal : Journal} {old : List HistoryEntry}
    (hopen : Journal.open? tree path .jsonl truncate = (opened, .ok journal))
    (hold : opened.read? journal.place = some (HistoryFormat.jsonl.content old))
    (clock : Nat → List Char) (pace : Nat → Journal → Nat) (told : List Notification)
    (timeout : List Char) (cut : Nat) :
    let reached := told.foldl
      (fun state n => ((Journal.sink clock pace).notify state n).state) (journal, opened, 0)
    let closed := reached.1.close reached.2.1 timeout
    let entries := old ++ stampedEntries clock told
    let content := HistoryFormat.jsonl.content entries
    let found := closed.1.recollect (closed.2.1.write journal.place (content.take cut))
    closed.2.1.read? journal.place = some content ∧ (∀ c ∈ content, byteSize c = 1) ∧
      found.failure? = none ∧
      ∃ kept lost, entries = kept ++ lost ∧ found.entries = kept.map HistoryEntry.recalled ∧
        (HistoryFormat.jsonl.content kept).length ≤ cut + 1 ∧
        ∀ e ∈ lost.head?, cut + 1 < (HistoryFormat.jsonl.content (kept ++ [e])).length := by
  intro reached closed entries content found
  obtain ⟨before, hkeeps⟩ :
      ∃ before, Journal.Keeps journal.place .jsonl journal opened {} before := by
    cases truncate with
    | true => exact ⟨[], Journal.keeps_of_open hopen⟩
    | false => exact ⟨_, Journal.keeps_of_open_append hopen⟩
  have hbefore : before = HistoryFormat.jsonl.content old := by
    have hread := hkeeps.content_eq.symm.trans hold
    exact (List.append_nil before).symm.trans (Option.some.inj hread)
  obtain ⟨-, hplace, hformat, hcontent⟩ := hkeeps.close_hearAll clock pace told timeout
  have hfound : found = Recollection.ofContent .jsonl (content.take cut) := by
    show Journal.recollect closed.1 _ = _
    rw [Journal.recollect, hplace, FileTree.read?_write, hformat]
  refine ⟨?_, fun c hc => HistoryFormat.byteSize_of_mem_content hc, ?_⟩
  · show _ = some (HistoryFormat.jsonl.content (old ++ stampedEntries clock told))
    rw [HistoryFormat.content_append, ← hbefore]
    exact hcontent
  · rw [hfound]
    exact Recollection.ofContent_take_content entries cut

/-- An entry that a file held before. -/
def dawnEntry : HistoryEntry := ⟨"1+1".toList, 2.0, "dawn".toList⟩

/-- An entry with a character that takes two escapes. -/
def noonEntry : HistoryEntry := ⟨"😀".toList, infiniteFloat true, "noon".toList⟩

/-- The theorem at a journal that goes on behind an entry, where the file is cut off within the
second of two escapes. -/
theorem cut_history_read_back_escape :
    let tree : FileTree := { files := [(["log".toList], HistoryFormat.jsonl.content [dawnEntry])] }
    let told : List Notification := [noonEntry.notification]
    let sink := Journal.sink (fun _ => "noon".toList) fun turn _ => turn
    ∃ opened journal,
      Journal.open? tree (.ofText "log".toList) .jsonl false = (opened, .ok journal) ∧
      opened.read? journal.place = some (HistoryFormat.jsonl.content [dawnEntry]) ∧
      let reached := told.foldl (fun state n => (sink.notify state n).state) (journal, opened, 0)
      let closed := reached.1.close reached.2.1 "2.0".toList
      let content := HistoryFormat.jsonl.content [dawnEntry, noonEntry]
      let found := closed.1.recollect (closed.2.1.write journal.place (content.take 85))
      closed.2.1.read? journal.place = some content ∧
        (content.take 85).drop 60 = "\x7b\"expression\": \"\\ud83d\\ud".toList ∧
        found.failure? = none ∧ found.entries = [dawnEntry.recalled] := by
  intro tree told sink
  obtain ⟨opened, journal, hopen, hold⟩ : ∃ opened journal,
      Journal.open? tree (.ofText "log".toList) .jsonl false = (opened, .ok journal) ∧
        opened.read? journal.place = some (HistoryFormat.jsonl.content [dawnEntry]) :=
    ⟨_, _, rfl, rfl⟩
  obtain ⟨hcontent, -, hfailure, kept, lost, hsplit, hentries, hkept, hlost⟩ :=
    cut_history_read_back hopen hold (fun _ => "noon".toList) (fun turn _ => turn) told
      "2.0".toList 85
  have hearly : (HistoryFormat.jsonl.content [dawnEntry]).length = 60 := by decide +kernel
  have hboth : (HistoryFormat.jsonl.content [dawnEntry, noonEntry]).length = 130 := by
    decide +kernel
  have hsplit : [dawnEntry, noonEntry] = kept ++ lost := hsplit
  have hone : kept = [dawnEntry] := by
    match kept, hsplit with
    | [], hsplit =>
      -- the first line ends before the cut
      obtain rfl : [dawnEntry, noonEntry] = lost := hsplit
      have hlate : 86 < (HistoryFormat.jsonl.content [dawnEntry]).length := hlost dawnEntry rfl
      omega
    | [e], hsplit => rw [(List.cons.inj hsplit).1]
    | first :: second :: rest, hsplit =>
      -- the second line does not
      obtain ⟨rfl, rfl, hrest⟩ : first = dawnEntry ∧ second = noonEntry ∧ rest ++ lost = [] := by
        simpa [eq_comm] using hsplit
      rw [(List.append_eq_nil_iff.1 hrest).1] at hkept
      omega
  rw [hone] at hentries
  exact ⟨opened, journal, hopen, hold, hcontent, by decide +kernel, hfailure, hentries⟩

end DeskCalculator
