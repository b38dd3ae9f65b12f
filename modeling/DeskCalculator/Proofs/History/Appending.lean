import DeskCalculator.Proofs.Decimal.FullText
import DeskCalculator.Proofs.History.Reading
import DeskCalculator.Proofs.History.Recording
import DeskCalculator.Proofs.Json.Behind

/-!
# A history that goes on

A journal that continues a file writes behind what the file holds.  The old lines stay and the new
entries have lines of their own, unless the last old line has not ended: then the first new entry
comes behind it on the same line, and what is read is neither of the two.

* `unfinishedLine` — the text behind the last line end of a file.
* `entryLines_append` — where new lines come behind the content of a file.
* `HistoryFormat.read_append_write_ne` — an entry with something before it on its line is not read as
  this entry.
* `Recollection.ofContent_append_iff` — when old and new entries are all found in a file.
* `appended_history_read_back` — the same of a journal.
-/

namespace DeskCalculator

/-! ## The last line -/

section LastLine

variable {s t begun line : List Char} {lines : List (List Char)}

/-- The text behind the last line end of a content: of a line that was begun and has not ended. -/
def unfinishedLine (content : List Char) : List Char :=
  ((unifyLineEnds content).reverse.takeWhile (· != '\n')).reverse

/-- Line ends are unified part by part, if none is cut in two. -/
theorem unifyLineEnds_append (h : ∀ c ∈ t.head?, c ≠ '\n') :
    unifyLineEnds (s ++ t) = unifyLineEnds s ++ unifyLineEnds t := by
  fun_induction unifyLineEnds s with
  | case1 rest ih => rw [List.cons_append, List.cons_append, unifyLineEnds, ih, List.cons_append]
  | case2 rest hrest ih =>
    rw [List.cons_append, unifyLineEnds, ih, List.cons_append]
    intro rest' heq
    cases rest with
    | nil =>
      rw [List.nil_append] at heq
      subst heq
      exact h '\n' rfl rfl
    | cons c rest =>
      cases heq
      exact hrest rest rfl
  | case3 c rest hc hc' ih =>
    rw [List.cons_append, unifyLineEnds, ih, List.cons_append]
    · exact fun rest' heq => absurd heq hc'
    · exact hc'
  | case4 => rfl

theorem linesFrom_append (s begun t : List Char) :
    linesFrom begun (s ++ '\n' :: t) = linesFrom begun (s ++ ['\n']) ++ linesOf t := by
  induction s generalizing begun with
  | nil => simp [linesFrom, linesOf]
  | cons c s ih =>
    rw [List.cons_append, List.cons_append, linesFrom, linesFrom]
    split
    · rw [ih, List.cons_append]
    · rw [ih]

/-- A content is what has ended of it and its unfinished line, which has no line end. -/
theorem exists_ended (content : List Char) :
    ∃ ended, unifyLineEnds content = ended ++ unfinishedLine content ∧
      (∀ t, linesOf (ended ++ t) = linesOf ended ++ linesOf t) ∧
      ∀ c ∈ unfinishedLine content, c ≠ '\n' := by
  have hsplit := List.takeWhile_append_dropWhile (p := (· != '\n'))
    (l := (unifyLineEnds content).reverse)
  have hunified : unifyLineEnds content =
      ((unifyLineEnds content).reverse.dropWhile (· != '\n')).reverse ++
        unfinishedLine content := by
    rw [unfinishedLine, ← List.reverse_append, hsplit, List.reverse_reverse]
  refine ⟨_, hunified, fun t => ?_, fun c hc => ?_⟩
  · cases hended : (unifyLineEnds content).reverse.dropWhile (· != '\n') with
    | nil => rfl
    | cons c ended =>
      have hc : c = '\n' := by
        have hhead := List.head?_dropWhile_not (· != '\n') (unifyLineEnds content).reverse
        rw [hended] at hhead
        simpa using hhead
      rw [hc, List.reverse_cons, List.append_assoc]
      exact linesFrom_append ended.reverse [] t
  · have hmem := List.mem_takeWhile_imp (List.mem_reverse.1 hc)
    simpa using hmem

/-- Where new lines come behind a content: the first one goes on with the unfinished line, and the
others stand for themselves. -/
theorem entryLines_append (content : List Char) :
    ∃ finished, entryLines content =
        finished ++ [trimBlank (unfinishedLine content)].filter (!·.isEmpty) ∧
      ∀ line lines, (∀ whole ∈ line :: lines, IsWholeLine whole) →
        entryLines (content ++ linesText (line :: lines)) =
          finished ++ ((unfinishedLine content).dropWhile isBlank ++ line) :: lines := by
  obtain ⟨ended, hunified, hended, hunfinished⟩ := exists_ended content
  refine ⟨((linesOf ended).map trimBlank).filter (!·.isEmpty), ?_, fun line lines hlines => ?_⟩
  · have hlast : linesOf (unfinishedLine content) =
        [unfinishedLine content].filter (!·.isEmpty) := linesFrom_unfinished hunfinished []
    rw [entryLines, fileLines, hunified, hended, List.map_append, List.filter_append, hlast]
    cases unfinishedLine content <;> rfl
  · obtain ⟨hline, hrest⟩ := List.forall_mem_cons.1 hlines
    have hfeed : ∀ line ∈ lines, ∀ c ∈ line, c ≠ '\n' :=
      fun line hmem c hc => ((hrest line hmem).no_line_end c hc).1
    have hhead : ∀ c ∈ (linesText (line :: lines)).head?, c ≠ '\n' := by
      rw [linesText_cons, List.head?_append_of_ne_nil _ hline.ne_nil]
      rintro c hc rfl
      exact absurd (hline.head _ hc) (by decide)
    have hbegun : ∀ c ∈ unfinishedLine content ++ line, c ≠ '\n' :=
      List.forall_mem_append.2 ⟨hunfinished, fun c hc => (hline.no_line_end c hc).1⟩
    have hnew : linesOf (unfinishedLine content ++ linesText (line :: lines)) =
        (unfinishedLine content ++ (line ++ ['\n'])) ::
          lines.map fun line => line ++ ['\n'] := by
      rw [linesText_cons, ← List.append_assoc, linesOf, linesFrom_line hbegun,
        linesOf_linesText hfeed]
      simp
    have hwhole : ((unfinishedLine content).dropWhile isBlank ++ line).isEmpty = false := by
      simp [hline.ne_nil]
    rw [entryLines, fileLines, unifyLineEnds_append hhead, unifyLineEnds_linesText hlines,
      hunified, List.append_assoc, hended, hnew, List.map_append, List.map_cons,
      hline.trimBlank_append_eq, List.filter_append, List.filter_cons_of_pos (by simp [hwhole]),
      filter_map_trimBlank hrest]

end LastLine

/-! ## Entries that share a line -/

section SharedLine

variable {e : HistoryEntry} {begun : List Char}

/-- An entry with something before it on its line is not read as this entry: in a line of text what
stands before becomes a part of its expression, and a line of JSON is none any more. -/
theorem HistoryFormat.read_append_write_ne (format : HistoryFormat) (hne : begun ≠ [])
    (hhead : ∀ c ∈ begun.head?, isBlank c = false) :
    format.read (begun ++ format.write e) ≠ .ok (format.recalled e) := by
  intro hread
  cases format with
  | text =>
    let shared : HistoryEntry := { e with expression := begun ++ e.expression }
    have hline : shared.line = begun ++ e.line := List.append_assoc ..
    have hshared : RecalledEntry.ofLine shared.line = .ok (HistoryFormat.text.recalled shared) :=
      HistoryEntry.ofLine_line (List.append_ne_nil_of_left_ne_nil hne _)
    rw [hline] at hshared
    have hsame := Except.ok.inj (hshared.symm.trans hread)
    have hexpression : begun ++ e.expression = e.expression :=
      Json.string.inj (congrArg RecalledEntry.expression hsame)
    exact hne (List.append_left_eq_self.1 hexpression)
  | jsonl =>
    have hbegun : Json.skipSpace begun ≠ [] := by
      obtain ⟨c, begun, rfl⟩ := List.exists_cons_of_ne_nil hne
      have hspace : Json.isSpace c = false := by
        have hblank := hhead c rfl
        by_contra hspace
        simp only [Json.isSpace, Bool.not_eq_false, Bool.or_eq_true, beq_iff_eq] at hspace
        rcases hspace with ((rfl | rfl) | rfl) | rfl <;> exact absurd hblank (by decide)
      rw [Json.skipSpace, List.dropWhile_cons_of_neg (by simp [hspace])]
      exact List.cons_ne_nil _ _
    have hparse := Json.parse_append_print_texts hbegun "xpression".toList e.expression
      [("result".toList, fullText e.value), ("timestamp".toList, e.timestamp)]
    have hjson : RecalledEntry.ofJson (begun ++ e.json) = .ok e.recalled := hread
    unfold RecalledEntry.ofJson at hjson
    split at hjson
    · cases hjson
    · rename_i v hv
      exact hparse v hv

end SharedLine

/-! ## Old and new entries of a file -/

namespace Recollection

variable {format : HistoryFormat} {entries : List HistoryEntry} {old : List Char}

/-- The entries behind a shared line: if the first of them were still found, what stands before it
would be no entry, and the whole line would be read as this one. -/
theorem entries_ne_of_shared {e : HistoryEntry} {begun : List Char} (hne : begun ≠ [])
    (hhead : ∀ c ∈ begun.head?, isBlank c = false)
    (hend : ¬ format.IsStoppedBy (begun ++ format.write e)) (first : List RecalledEntry)
    (lines : List (List Char)) :
    (ofLines format ((begun ++ format.write e) :: lines)).entries ≠
      first ++ format.recalled e :: (ofLines format lines).entries := by
  intro hentries
  obtain ⟨hcons, -⟩ := (ofLines_cons format (begun ++ format.write e) lines).2 hend
  rw [hcons, ← List.singleton_append, ← List.append_assoc] at hentries
  have hshared := List.append_cancel_right hentries
  have hread := format.read_append_write_ne (e := e) hne hhead
  rw [HistoryFormat.entryOf?] at hshared
  cases hmerged : format.read (begun ++ format.write e) with
  | error failure =>
    rw [hmerged] at hshared
    simp [Except.toOption] at hshared
  | ok found =>
    rw [hmerged] at hshared hread
    cases first with
    | nil =>
      refine hread (congrArg _ ?_)
      simpa [Except.toOption] using hshared
    | cons r first => simp [Except.toOption] at hshared

/-- Lines in front do not matter, as long as none of them stops the reader. -/
theorem ofLines_append_iff (first old found : List (List Char)) (new : List RecalledEntry) :
    (ofLines format (first ++ found)).entries = (ofLines format (first ++ old)).entries ++ new ∧
        (ofLines format (first ++ found)).failure? = none ↔
      (∀ line ∈ first, ¬ format.IsStoppedBy line) ∧
        (ofLines format found).entries = (ofLines format old).entries ++ new ∧
        (ofLines format found).failure? = none := by
  by_cases hfirst : ∀ line ∈ first, ¬ format.IsStoppedBy line
  · obtain ⟨hfoundEntries, hfoundEnd⟩ := ofLines_append hfirst found
    obtain ⟨holdEntries, -⟩ := ofLines_append hfirst old
    rw [hfoundEntries, hfoundEnd, holdEntries, List.append_assoc, List.append_cancel_left_eq]
    exact (and_iff_right hfirst).symm
  · refine iff_of_false ?_ fun h => hfirst h.1
    rintro ⟨-, hend⟩
    exact hfirst (failure?_ofLines_append_eq_none_iff.1 hend).1

/-- **Old and new entries.**  A file with new entries behind its old content gives back what was in
it and then the new entries, if and only if the old content is read to its end and its last line had
ended, unless there is nothing new. -/
theorem ofContent_append_iff (h : ∀ e ∈ entries, format.Holds e.expression) :
    let before := ofContent format old
    let found := ofContent format (old ++ format.content entries)
    found.entries = before.entries ++ entries.map format.recalled ∧ found.failure? = none ↔
      before.failure? = none ∧ (entries = [] ∨ ∀ c ∈ unfinishedLine old, isBlank c = true) := by
  intro before found
  cases entries with
  | nil =>
    have hfound : found = before := congrArg (ofContent format) (List.append_nil old)
    rw [hfound]
    simp
  | cons e entries =>
    have hlines : ∀ whole ∈ format.write e :: entries.map format.write, IsWholeLine whole := by
      rw [← List.map_cons]
      simpa using fun e he => format.isWholeLine_write (h e he)
    obtain ⟨finished, hold, hnew⟩ := entryLines_append old
    have hbefore : before = ofLines format
        (finished ++ [trimBlank (unfinishedLine old)].filter (!·.isEmpty)) :=
      congrArg (ofLines format) hold
    have hfound : found = ofLines format (finished ++
        ((unfinishedLine old).dropWhile isBlank ++ format.write e) :: entries.map format.write) :=
      congrArg (ofLines format) (hnew _ _ hlines)
    rw [hfound, hbefore, ofLines_append_iff, failure?_ofLines_append_eq_none_iff, and_assoc,
      and_congr_right_iff]
    intro _
    by_cases hblank : ∀ c ∈ unfinishedLine old, isBlank c = true
    · -- the first new entry has a line of its own
      have hdrop : (unfinishedLine old).dropWhile isBlank = [] :=
        List.dropWhile_eq_nil_iff.2 hblank
      have htrim : trimBlank (unfinishedLine old) = [] := by
        rw [trimBlank, trimBy, hdrop]
        rfl
      rw [hdrop, htrim, List.nil_append, ← List.map_cons, ofLines_write format h]
      simpa [ofLines] using hblank
    · have hne : (unfinishedLine old).dropWhile isBlank ≠ [] :=
        fun hdrop => hblank (List.dropWhile_eq_nil_iff.1 hdrop)
      refine iff_of_false ?_ (by simp [hblank])
      rintro ⟨hsame, hend⟩
      have hshared := (List.forall_mem_cons.1 (failure?_ofLines_eq_none_iff.1 hend)).1
      refine entries_ne_of_shared hne (not_of_head_dropWhile isBlank _) hshared
        (ofLines format ([trimBlank (unfinishedLine old)].filter (!·.isEmpty))).entries
        (entries.map format.write) ?_
      rw [hsame, ofLines_write format (List.forall_mem_cons.1 h).2,
        List.map_cons]

end Recollection

/-! ## The journal -/

/-- **A journal that goes on keeps what was there**, as long as the last line of its file had ended.
Open a journal in either format on a file of any content without emptying it, tell it of
calculations, whatever the time is and however far the worker gets between two of them, and close
it.  Then the worker has stopped, and the file holds its old content and behind it one line for each
new entry.  It reads back without complaint as the old entries and then the new ones, in order, if
and only if the old content is read to its end and nothing but blanks stands behind its last line
end, unless nothing new was told. -/
theorem appended_history_read_back {tree opened : FileTree} {path : FilePath}
    {format : HistoryFormat} {journal : Journal} {told : List Notification}
    (hopen : Journal.open? tree path format false = (opened, .ok journal))
    (hrecordable : ∀ n ∈ told, n.IsRecordable)
    (clock : Nat → List Char) (pace : Nat → Journal → Nat) (timeout : List Char) :
    let old := (tree.read? journal.place).getD []
    let before := Recollection.ofContent format old
    let new := stampedEntries clock told
    let reached := told.foldl
      (fun state n => ((Journal.sink clock pace).notify state n).state) (journal, opened, 0)
    let closed := reached.1.close reached.2.1 timeout
    let found := closed.1.recollect closed.2.1
    closed.1.worker.isGone = true ∧
      closed.2.1.read? journal.place = some (old ++ format.content new) ∧
      (found.entries = before.entries ++ new.map format.recalled ∧ found.failure? = none ↔
        before.failure? = none ∧ (told = [] ∨ ∀ c ∈ unfinishedLine old, isBlank c = true)) := by
  intro old before new reached closed found
  obtain ⟨t, hkeeps, hclosed, haccepted⟩ :=
    Journal.Keeps.hearAll (journal, opened, 0) (Journal.keeps_of_open_append hopen) rfl clock pace
      told
  have hnew : t.accepted = new := by
    rw [haccepted]
    simp only [Nat.zero_add]
    rfl
  obtain ⟨hgone, hplace, hformat, hcontent⟩ := hkeeps.close hclosed timeout
  rw [hnew] at hcontent
  have hfound : found = Recollection.ofContent format (old ++ format.content new) := by
    show Journal.recollect closed.1 closed.2.1 = _
    rw [Journal.recollect, hplace, hcontent, hformat]
  have hentries : ∀ e ∈ new, format.Holds e.expression := by
    intro e he
    have htold : e.notification ∈ told := by
      rw [← map_notification_stampedEntries clock told]
      exact List.mem_map_of_mem he
    exact (hrecordable e.notification htold).holds format
  have hnone : new = [] ↔ told = [] := by
    rw [← List.map_eq_nil_iff (f := HistoryEntry.notification),
      map_notification_stampedEntries clock told]
  refine ⟨hgone, hcontent, ?_⟩
  rw [hfound, ← hnone]
  exact Recollection.ofContent_append_iff hentries

/-- A tree of files with a log of a given content. -/
def treeWithLog (content : String) : FileTree := { files := [(["log".toList], content.toList)] }

/-- The theorem at a log whose only line ends with a carriage return, beside a worker that is not
done when the journal is closed. -/
theorem appended_history_read_back_late :
    let tree := treeWithLog "1+1=2.0\r"
    let told : List Notification := [⟨"2+2".toList, 4.0⟩, ⟨"1/0".toList, infiniteFloat false⟩]
    let sink := Journal.sink (fun _ => "noon".toList) fun turn _ => turn
    ∃ opened journal,
      Journal.open? tree (.ofText "log".toList) .text false = (opened, .ok journal) ∧
      let reached := told.foldl (fun state n => (sink.notify state n).state) (journal, opened, 0)
      let closed := reached.1.close reached.2.1 "2.0".toList
      let found := closed.1.recollect closed.2.1
      closed.1.worker.isGone = true ∧ found.failure? = none ∧
        found.entries.map (fun e => (e.expression, e.value)) =
          [(.string "1+1".toList, 2.0), (.string "2+2".toList, 4.0),
            (.string "1/0".toList, infiniteFloat false)] := by
  intro tree told sink
  obtain ⟨opened, journal, hopen, hold⟩ : ∃ opened journal,
      Journal.open? tree (.ofText "log".toList) .text false = (opened, .ok journal) ∧
        (tree.read? journal.place).getD [] = "1+1=2.0\r".toList := ⟨_, _, rfl, rfl⟩
  have hrecordable : ∀ n ∈ told, n.IsRecordable := by
    have hsum : ∀ c ∈ "2+2".toList, (!isBlank c) = true := List.all_eq_true.1 rfl
    have hquotient : ∀ c ∈ "1/0".toList, (!isBlank c) = true := List.all_eq_true.1 rfl
    refine List.forall_mem_cons.2 ⟨?_, List.forall_mem_singleton.2 ?_⟩
    · exact ⟨by decide, fun c hc => by simpa using hsum c hc⟩
    · exact ⟨by decide, fun c hc => by simpa using hquotient c hc⟩
  obtain ⟨hgone, -, hread⟩ := appended_history_read_back hopen hrecordable
    (fun _ => "noon".toList) (fun turn _ => turn) "2.0".toList
  rw [hold] at hread
  have hbefore : Recollection.ofContent .text "1+1=2.0\r".toList =
      { entries := [{ expression := .string "1+1".toList, value := 2.0 }] } := rfl
  have hunfinished : unfinishedLine "1+1=2.0\r".toList = [] := rfl
  obtain ⟨hentries, hfailure⟩ := hread.2 ⟨by rw [hbefore], .inr (by rw [hunfinished]; simp)⟩
  refine ⟨opened, journal, hopen, hgone, hfailure, ?_⟩
  rw [hentries, hbefore]
  rfl

/-- Behind a line that has not ended the first new entry is lost, and the old one with it: both make
one line, which is read as an entry that nobody wrote. -/
theorem appended_entry_merged :
    let tree := treeWithLog "1+1=2.0"
    let told : List Notification := [⟨"2+2".toList, 4.0⟩]
    let sink := Journal.sink fun _ => "noon".toList
    (Recollection.ofContent .text "1+1=2.0".toList).entries =
        [{ expression := .string "1+1".toList, value := 2.0 }] ∧
      ∃ opened journal,
        Journal.open? tree (.ofText "log".toList) .text false = (opened, .ok journal) ∧
        let reached := told.foldl (fun state n => (sink.notify state n).state) (journal, opened, 0)
        let closed := reached.1.close reached.2.1 "2.0".toList
        (closed.1.recollect closed.2.1).entries =
          [{ expression := .string "1+1=2.02+2".toList, value := 4.0 }] :=
  ⟨rfl, _, _, rfl, rfl⟩

end DeskCalculator
