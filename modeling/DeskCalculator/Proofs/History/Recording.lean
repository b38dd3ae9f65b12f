import DeskCalculator.Proofs.History.Journaling
import DeskCalculator.Proofs.Session.Listening

/-!
# The history of a session

A session tells its journal of each success, and the journal has a line for each of them when it is
closed.  A line holds what it has to, since the text of a success has no blanks in it.

* `Journal.Keeps.hearAll` — the journal accepts one entry for each notification.
* `Journal.Keeps.close_hearAll` — closed, it has a line for each behind what its file held.
* `Journal.Keeps.recollect_close` — a closed journal gives back what it accepted.
* `session_history_read_back` — so its file gives back the successes of the session.
-/

namespace DeskCalculator

variable {limits : StackLimits}

/-- The entries of notifications: each has the time that the clock tells at its turn. -/
def stampedEntries (clock : Nat → List Char) (told : List Notification) : List HistoryEntry :=
  told.mapIdx fun turn n => ⟨n.expression, n.value, clock turn⟩

theorem stampedEntries_cons (clock : Nat → List Char) (n : Notification)
    (told : List Notification) :
    stampedEntries clock (n :: told) =
      ⟨n.expression, n.value, clock 0⟩ :: stampedEntries (fun turn => clock (turn + 1)) told :=
  List.mapIdx_cons

theorem map_notification_stampedEntries (clock : Nat → List Char) (told : List Notification) :
    (stampedEntries clock told).map HistoryEntry.notification = told := by
  induction told generalizing clock with
  | nil => rfl
  | cons n told ih => rw [stampedEntries_cons, List.map_cons, ih, HistoryEntry.notification]

namespace Journal

variable {place : Place} {format : HistoryFormat} {j : Journal} {tree : FileTree}
  {t : Trace HistoryEntry} {before : List Char}

/-- The journal accepts one entry for each notification, in order and with its time. -/
theorem Keeps.hearAll (state : Journal × FileTree × Nat)
    (h : Keeps place format state.1 state.2.1 t before) (hclosed : t.worker.closed = false)
    (clock : Nat → List Char) (pace : Nat → Journal → Nat) (told : List Notification) :
    let reached := told.foldl
      (fun state n => ((Journal.sink clock pace).notify state n).state) state
    ∃ t', Keeps place format reached.1 reached.2.1 t' before ∧ t'.worker.closed = false ∧
      t'.accepted =
        t.accepted ++ stampedEntries (fun turn => clock (state.2.2 + turn)) told := by
  induction told generalizing state t with
  | nil => exact ⟨t, h, hclosed, (List.append_nil _).symm⟩
  | cons n told ih =>
    obtain ⟨j, tree, count⟩ := state
    obtain ⟨t', hkeeps, haccepted, hclosed'⟩ := h.notify hclosed (clock count) n (pace count)
    obtain ⟨t'', hkeeps', hclosed'', hall⟩ :=
      ih ((Journal.sink clock pace).notify (j, tree, count) n).state hkeeps hclosed'
    have hcount : ((Journal.sink clock pace).notify (j, tree, count) n).state.2.2 =
        count + 1 := rfl
    refine ⟨t'', hkeeps', hclosed'', ?_⟩
    simp only [hall, haccepted, hcount, stampedEntries_cons, List.append_assoc, Nat.add_zero,
      Nat.add_comm, Nat.add_left_comm]
    rfl

/-- A journal that is told of calculations and then closed has behind what its file held one line
for each of them. -/
theorem Keeps.close_hearAll {opened : FileTree} (h : Keeps place format j opened {} before)
    (clock : Nat → List Char) (pace : Nat → Journal → Nat) (told : List Notification)
    (timeout : List Char) :
    let reached := told.foldl
      (fun state n => ((Journal.sink clock pace).notify state n).state) (j, opened, 0)
    let closed := reached.1.close reached.2.1 timeout
    closed.1.worker.isGone = true ∧ closed.1.place = place ∧ closed.1.format = format ∧
      closed.2.1.read? place = some (before ++ format.content (stampedEntries clock told)) := by
  intro reached closed
  obtain ⟨t, hkeeps, hclosed, haccepted⟩ := h.hearAll (j, opened, 0) rfl clock pace told
  have hnew : t.accepted = stampedEntries clock told := by
    rw [haccepted]
    simp only [Nat.zero_add]
    rfl
  rw [← hnew]
  exact hkeeps.close hclosed timeout

/-- The journal accepts one entry for each evaluation that it is told of, in order. -/
theorem Keeps.hear (state : Journal × FileTree × Nat)
    (h : Keeps place format state.1 state.2.1 t before) (hclosed : t.worker.closed = false)
    (clock : Nat → List Char) (pace : Nat → Journal → Nat) (told : List Evaluation) :
    let reached := told.foldl
      (fun state e => ((Journal.sink clock pace).notify state e.notification).state) state
    ∃ t', Keeps place format reached.1 reached.2.1 t' before ∧ t'.worker.closed = false ∧
      t'.accepted.map HistoryEntry.notification =
        t.accepted.map HistoryEntry.notification ++ told.map Evaluation.notification := by
  obtain ⟨t', hkeeps, hclosed', haccepted⟩ :=
    h.hearAll state hclosed clock pace (told.map Evaluation.notification)
  rw [List.foldl_map] at hkeeps
  refine ⟨t', hkeeps, hclosed', ?_⟩
  rw [haccepted, List.map_append, map_notification_stampedEntries]

/-- A closed journal gives back what it accepted, if all of it can be written on lines. -/
theorem Keeps.recollect_close (h : Keeps place format j tree t) (hclosed : t.worker.closed = false)
    (hrecordable : ∀ e ∈ t.accepted, e.notification.IsRecordable) (timeout : List Char) :
    (j.close tree timeout).1.worker.isGone = true ∧
      (j.close tree timeout).1.recollect (j.close tree timeout).2.1 =
        { entries := t.accepted.map format.recalled } := by
  obtain ⟨hgone, hplace, hformat, hcontent⟩ := h.close hclosed timeout
  refine ⟨hgone, ?_⟩
  rw [Journal.recollect, hplace, hcontent, hformat]
  exact Recollection.ofContent_content format fun e he => (hrecordable e he).holds format

end Journal

/-- What is read back of entries is what the journal was told. -/
theorem HistoryFormat.map_recalled (format : HistoryFormat) (entries : List HistoryEntry) :
    (entries.map format.recalled).map (fun e => (e.expression, e.value)) =
      (entries.map HistoryEntry.notification).map fun n => (.string n.expression, n.value) := by
  rw [List.map_map, List.map_map]
  exact List.map_congr_left fun e _ => format.recalled_pair e

/-- **A closed journal holds the session.**  Open a new journal in either format on an emptied
file, let a session tell it of its successes, whatever the session is asked for, whatever the
time is and however far the worker gets between two of them, and close it.  Then the worker has
stopped and the file reads back without complaint: one entry for each step that succeeded and none
for the others, in order, with its text and its very value, also where this is infinite or no
number. -/
theorem session_history_read_back {tree opened : FileTree} {path : FilePath}
    {format : HistoryFormat} {journal : Journal}
    (hopen : Journal.open? tree path format true = (opened, .ok journal))
    (last? : Option Float) (clock : Nat → List Char) (pace : Nat → Journal → Nat)
    (requests : List SessionRequest) (timeout : List Char) :
    let s : Session _ := ⟨last?, (journal, opened, 0)⟩
    let successes := s.successes limits (Journal.sink clock pace) requests
    let reached := (s.after limits (Journal.sink clock pace) requests).sink
    let closed := reached.1.close reached.2.1 timeout
    let recollection := closed.1.recollect closed.2.1
    closed.1.worker.isGone = true ∧ recollection.failure? = none ∧
      recollection.entries.map (fun e => (e.expression, e.value)) =
        successes.map fun e => (.string e.expression, e.value) := by
  intro s successes reached closed recollection
  have hreached : reached = successes.foldl
      (fun state e => ((Journal.sink clock pace).notify state e.notification).state)
      (journal, opened, 0) := Session.sink_after requests
  have hstart : Journal.Keeps journal.place format journal opened {} := Journal.keeps_of_open hopen
  obtain ⟨t, hkeeps, hclosed, hall⟩ :=
    Journal.Keeps.hear (journal, opened, 0) hstart rfl clock pace successes
  rw [← hreached] at hkeeps
  have haccepted : t.accepted.map HistoryEntry.notification =
      successes.map Evaluation.notification := hall
  have hrecordable : ∀ e ∈ t.accepted, e.notification.IsRecordable := by
    intro e he
    have htold : e.notification ∈ successes.map Evaluation.notification :=
      haccepted ▸ List.mem_map_of_mem he
    obtain ⟨evaluation, hmem, heq⟩ := List.mem_map.1 htold
    obtain ⟨hne, hblank⟩ := (Session.isCalculated_of_mem_successes evaluation hmem).unbroken
    rw [← heq]
    exact ⟨hne, hblank⟩
  obtain ⟨hgone, hrecollect⟩ := hkeeps.recollect_close hclosed hrecordable timeout
  have hrecollection : recollection = { entries := t.accepted.map format.recalled } := hrecollect
  refine ⟨hgone, by rw [hrecollection], ?_⟩
  rw [hrecollection, HistoryFormat.map_recalled, haccepted, List.map_map]
  rfl

/-- The theorem at a session that is asked for `1 / 0`, for `2 +`, which fails, for a reset and for
a token that comes from no line, beside a worker that is not done when the journal is closed. -/
theorem session_history_read_back_late :
    let sink := Journal.sink (fun _ => "noon".toList) fun told _ => told
    let made : List Token := [⟨.number, "0.5".toList, 9⟩]
    let requests : List SessionRequest :=
      [.line "1 / 0".toList, .line "2 +".toList, .reset, .tokens made]
    ∃ opened journal,
      Journal.open? {} (.ofText "logs/session".toList) .jsonl true = (opened, .ok journal) ∧
      let s : Session _ := ⟨none, (journal, opened, 0)⟩
      let reached := (s.after {} sink requests).sink
      let closed := reached.1.close reached.2.1 "2.0".toList
      let recollection := closed.1.recollect closed.2.1
      closed.1.worker.isGone = true ∧ recollection.failure? = none ∧
        recollection.entries.map (fun e => (e.expression, e.value)) =
          [(.string "1/0".toList, infiniteFloat false), (.string "0.5".toList, 0.5)] := by
  intro sink made requests
  obtain ⟨opened, journal, hopen⟩ : ∃ opened journal,
      Journal.open? {} (.ofText "logs/session".toList) .jsonl true = (opened, .ok journal) :=
    ⟨_, _, rfl⟩
  let s : Session (Journal × FileTree × Nat) := ⟨none, (journal, opened, 0)⟩
  let quotient : List Token := [⟨.number, ['1'], 0⟩, ⟨.symbol, ['/'], 2⟩, ⟨.number, ['0'], 4⟩]
  have hquotient : tokenize "1 / 0".toList = .ok quotient := rfl
  have hsum : tokenize "2 +".toList = .ok [⟨.number, ['2'], 0⟩, ⟨.symbol, ['+'], 2⟩] := rfl
  have hsuccesses : s.successes {} sink requests =
      [⟨"1/0".toList, infiniteFloat false, quotient⟩, ⟨"0.5".toList, 0.5, made⟩] := by
    simp only [requests, Session.successes, Session.respondAll, Session.respond,
      Session.calculate, tokensOf, hquotient, hsum, Session.calculateTokens, evaluateTokens_eq]
    rfl
  obtain ⟨hgone, hfailure, hentries⟩ := session_history_read_back hopen none
    (fun _ => "noon".toList) (fun told _ => told) requests "2.0".toList
  rw [hsuccesses] at hentries
  exact ⟨opened, journal, hopen, hgone, hfailure, hentries⟩

end DeskCalculator
