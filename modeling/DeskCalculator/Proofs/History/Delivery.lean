import DeskCalculator.History.Trace
import Mathlib.Data.List.Basic

/-!
# What becomes of the entries

Whatever order the actions of the clients and of the worker come in, the entries that were accepted
pass through the queue and the worker's hands in their order, and each ends up written or counted
as a failure.

* `Trace.Step` — what one action can do to a worker and its past; `Trace.act?_eq_some_iff` says
  that these are all.
* `Trace.passage` — all items, from the first one that was dealt with to the last one in the queue.
* `Trace.Orderly` — the invariant: the items are the accepted entries and then, once it was asked
  for, the request to stop; every entry that was dealt with is written or counted.
* `Trace.Orderly.step`, `Trace.Orderly.run` — every action keeps it, and so does every run.
* `Trace.OnlyLost`, `Trace.onlyLost_run` — what happens once the file is closed.
* `entries_delivered_in_order` — what becomes of the entries in every run.
-/

namespace DeskCalculator

variable {ε : Type}

/-! ## What there is to follow -/

/-- The entry in the queue, unless it is the request to stop. -/
def Item.entry? : Item ε → Option ε
  | .entry e => some e
  | .stop => none

/-- The entry that the worker has taken and not yet dealt with. -/
def Hand.entry? : Hand ε → Option ε
  | .taken i => i.entry?
  | .empty | .handled _ | .gone => none

/-- The item that has left the queue and is not yet dealt with.  The request to stop is dealt with
by nothing, so it stays. -/
def Hand.held : Hand ε → List (Item ε)
  | .taken i => [i]
  | .handled .stop | .gone => [.stop]
  | .empty | .handled (.entry _) => []

namespace Trace

variable {t next later : Trace ε} {a : Action ε} {actions : List (Action ε)}

/-- The entries that were dealt with, in order. -/
def processed (t : Trace ε) : List ε := t.dealt.map (·.1)

/-- The entries that were dealt with and not written, in order. -/
def lost (t : Trace ε) : List ε := (t.dealt.filter (!·.2)).map (·.1)

/-- All items in order: those that were dealt with, the one that is held, and the queue. -/
def passage (t : Trace ε) : List (Item ε) :=
  t.processed.map .entry ++ t.worker.hand.held ++ t.worker.queue

/-- The items that a sequence of actions puts at the end of the queue. -/
def enqueued (t : Trace ε) : List (Action ε) → List (Item ε)
  | [] => []
  | a :: rest =>
    match t.act? a with
    | none => []
    | some next => next.worker.queue.drop t.worker.queue.length ++ next.enqueued rest

/-! ## What one action can do -/

/-- What an action can do to a worker and its past. -/
inductive Step (t : Trace ε) : Action ε → Trace ε → Prop
  /-- An entry is put at the end of the queue. -/
  | accept {e : ε} : t.worker.closed = false →
      Step t (.notify e)
        { t with worker := t.worker.enqueue (.entry e), accepted := t.accepted ++ [e] }
  /-- An entry comes too late. -/
  | refuse {e : ε} : t.worker.closed = true → Step t (.notify e) t
  /-- The worker is asked to stop. -/
  | stop : t.worker.closed = false →
      Step t .requestStop { t with worker := { t.worker.enqueue .stop with closed := true } }
  /-- The worker was asked to stop before. -/
  | stopAgain : t.worker.closed = true → Step t .requestStop t
  /-- The file is closed. -/
  | closeFile : t.worker.closed = true →
      Step t .closeFile { t with worker := t.worker.closeFile }
  /-- The worker takes the next item. -/
  | take {i : Item ε} {queue : List (Item ε)} : t.worker.hand = .empty →
      t.worker.queue = i :: queue →
      Step t .take { t with worker := { t.worker with queue, hand := .taken i } }
  /-- An entry is written. -/
  | write {e : ε} : t.worker.hand = .taken (.entry e) → t.worker.fileOpen = true →
      Step t (.handle true)
        { t with worker := { t.worker with hand := .handled (.entry e) },
                 dealt := t.dealt ++ [(e, true)] }
  /-- An entry is not written. -/
  | fail {e : ε} : t.worker.hand = .taken (.entry e) →
      Step t (.handle false)
        { t with worker := { t.worker with hand := .handled (.entry e),
                                           failures := t.worker.failures + 1 },
                 dealt := t.dealt ++ [(e, false)] }
  /-- The worker sees the request to stop. -/
  | heed {written : Bool} : t.worker.hand = .taken .stop →
      Step t (.handle written) { t with worker := { t.worker with hand := .handled .stop } }
  /-- The worker accounts for an entry. -/
  | account {e : ε} : t.worker.hand = .handled (.entry e) →
      Step t .account
        { t with worker := { t.worker with hand := .empty,
                                           unfinished := t.worker.unfinished - 1 } }
  /-- The worker accounts for the request to stop and is gone. -/
  | leave : t.worker.hand = .handled .stop →
      Step t .account
        { t with worker := { t.worker with hand := .gone,
                                           unfinished := t.worker.unfinished - 1 } }

/-- The rules say exactly when an action is enabled and what it does. -/
theorem act?_eq_some_iff : t.act? a = some next ↔ Step t a next := by
  obtain ⟨⟨queue, unfinished, hand, closed, fileOpen, failures⟩, accepted, dealt⟩ := t
  constructor
  · intro h
    cases a with
    | notify e =>
      cases closed <;> cases h
      · exact .accept rfl
      · exact .refuse rfl
    | requestStop =>
      cases closed <;> cases h
      · exact .stop rfl
      · exact .stopAgain rfl
    | closeFile =>
      cases closed <;> cases h
      exact .closeFile rfl
    | take =>
      cases hand <;> cases queue <;> cases h
      exact .take rfl rfl
    | handle written =>
      match hand, written, fileOpen, h with
      | .taken (.entry e), true, true, h =>
        cases h
        exact .write rfl rfl
      | .taken (.entry e), false, _, h =>
        cases h
        exact .fail rfl
      | .taken .stop, _, _, h =>
        cases h
        exact .heed rfl
    | account =>
      match hand, h with
      | .handled (.entry e), h =>
        cases h
        exact .account rfl
      | .handled .stop, h =>
        cases h
        exact .leave rfl
  · intro h
    cases h with
    | accept hclosed | refuse hclosed | stop hclosed | stopAgain hclosed | closeFile hclosed =>
      cases hclosed
      rfl
    | take hhand hqueue =>
      cases hhand
      cases hqueue
      rfl
    | write hhand hopen =>
      cases hhand
      cases hopen
      rfl
    | fail hhand | heed hhand | account hhand | leave hhand =>
      cases hhand
      rfl

/-! ## The items stay in order -/

/-- The request to stop, once it was asked for. -/
def stopMark (t : Trace ε) : List (Item ε) := if t.worker.closed then [.stop] else []

/-- The items are the accepted entries and then the request to stop, and the failures are the
entries that were dealt with and not written. -/
structure Orderly (t : Trace ε) : Prop where
  passage_eq : t.passage = t.accepted.map .entry ++ t.stopMark
  failures_eq : t.worker.failures = t.lost.length

/-- An action moves items on and puts new ones behind all others. -/
theorem passage_step (h : Step t a next) :
    next.passage = t.passage ++ next.worker.queue.drop t.worker.queue.length := by
  cases h with
  | accept _ | stop _ => simp [passage, processed, Worker.enqueue]
  | refuse _ | stopAgain _ | closeFile _ => simp [passage, processed, Worker.closeFile]
  | take hhand hqueue => simp [passage, processed, hhand, hqueue, Hand.held]
  | write hhand _ | fail hhand | heed hhand | account hhand | leave hhand =>
    simp [passage, processed, hhand, Hand.held]

/-- What an action puts into the queue is an entry that it accepts or the first request to stop. -/
theorem accepted_step (h : Step t a next) :
    next.accepted.map .entry ++ next.stopMark =
      t.accepted.map .entry ++ t.stopMark ++ next.worker.queue.drop t.worker.queue.length := by
  cases h with
  | accept hclosed | stop hclosed => simp [stopMark, Worker.enqueue, hclosed]
  | take _ hqueue => simp [stopMark, hqueue]
  | refuse _ | stopAgain _ | closeFile _ | write _ _ | fail _ | heed _ | account _ | leave _ =>
    have hnothing : t.worker.queue.drop t.worker.queue.length = [] := List.drop_length
    exact (List.append_nil _).symm.trans (congrArg _ hnothing.symm)

theorem failures_step (h : Step t a next) (ht : t.worker.failures = t.lost.length) :
    next.worker.failures = next.lost.length := by
  cases h with
  | write _ _ | fail _ => simpa [lost] using ht
  | accept _ | refuse _ | stop _ | stopAgain _ | closeFile _ | take _ _ | heed _ | account _
    | leave _ => exact ht

theorem Orderly.start : Orderly ({} : Trace ε) := ⟨rfl, rfl⟩

theorem Orderly.step (ht : t.Orderly) (h : Step t a next) : next.Orderly where
  passage_eq := by rw [passage_step h, accepted_step h, ht.passage_eq]
  failures_eq := failures_step h ht.failures_eq

/-! ## Runs -/

/-- What a run does begins with what its first action does. -/
theorem run?_cons_eq_some {rest : List (Action ε)} (h : t.run? (a :: rest) = some later) :
    ∃ next, Step t a next ∧ next.run? rest = some later ∧
      t.enqueued (a :: rest) =
        next.worker.queue.drop t.worker.queue.length ++ next.enqueued rest := by
  rw [run?] at h
  obtain ⟨next, hnext, hrest⟩ := Option.bind_eq_some_iff.1 h
  exact ⟨next, act?_eq_some_iff.1 hnext, hrest, by rw [enqueued, hnext]⟩

theorem Orderly.run (ht : t.Orderly) (h : t.run? actions = some later) : later.Orderly := by
  induction actions generalizing t with
  | nil =>
    cases h
    exact ht
  | cons a rest ih =>
    obtain ⟨next, hnext, hrest, -⟩ := run?_cons_eq_some h
    exact ih (ht.step hnext) hrest

/-- The passage grows by what a run puts into the queue. -/
theorem passage_run (h : t.run? actions = some later) :
    later.passage = t.passage ++ t.enqueued actions := by
  induction actions generalizing t with
  | nil =>
    cases h
    exact (List.append_nil _).symm
  | cons a rest ih =>
    obtain ⟨next, hnext, hrest, henqueued⟩ := run?_cons_eq_some h
    rw [ih hrest, passage_step hnext, henqueued, List.append_assoc]

theorem run?_append (first second : List (Action ε)) :
    t.run? (first ++ second) = (t.run? first).bind fun mid => mid.run? second := by
  induction first generalizing t with
  | nil => rfl
  | cons a rest ih =>
    rw [List.cons_append, run?, run?]
    cases t.act? a with
    | none => rfl
    | some next => exact ih

/-! ## What the order says -/

/-- The accepted entries are those that were dealt with, the one in hand and those in the queue. -/
theorem Orderly.accepted_eq (h : t.Orderly) :
    t.accepted =
      t.processed ++ t.worker.hand.entry?.toList ++ t.worker.queue.filterMap Item.entry? := by
  have hentries : ∀ entries : List ε, (entries.map Item.entry).filterMap Item.entry? = entries := by
    intro entries
    rw [List.filterMap_map]
    exact List.filterMap_some
  have hheld : t.worker.hand.held.filterMap Item.entry? = t.worker.hand.entry?.toList := by
    cases t.worker.hand with
    | taken i => cases i <;> rfl
    | handled i => cases i <;> rfl
    | empty | gone => rfl
  have hmark : t.stopMark.filterMap Item.entry? = [] := by
    unfold stopMark
    split <;> rfl
  have hpassage := congrArg (List.filterMap Item.entry?) h.passage_eq
  rw [passage, List.filterMap_append, List.filterMap_append, List.filterMap_append, hentries,
    hentries, hheld, hmark, List.append_nil] at hpassage
  exact hpassage.symm

/-- The request to stop comes last: what stands before it is all there is. -/
theorem eq_of_append_stop {before entries : List ε} {behind mark : List (Item ε)}
    (hmark : mark = [] ∨ mark = [.stop])
    (h : before.map .entry ++ .stop :: behind = entries.map .entry ++ mark) :
    before = entries ∧ behind = [] := by
  induction before generalizing entries with
  | nil =>
    cases entries with
    | nil => rcases hmark with rfl | rfl <;> simp_all
    | cons e entries => simp at h
  | cons e before ih =>
    cases entries with
    | nil => rcases hmark with rfl | rfl <;> simp at h
    | cons e' entries =>
      rw [List.map_cons, List.map_cons, List.cons_append, List.cons_append, List.cons.injEq,
        Item.entry.injEq] at h
      obtain ⟨rfl, h⟩ := h
      obtain ⟨rfl, hbehind⟩ := ih h
      exact ⟨rfl, hbehind⟩

/-- Once the worker is gone, every accepted entry was dealt with. -/
theorem Orderly.processed_of_gone (h : t.Orderly) (hgone : t.worker.isGone = true) :
    t.processed = t.accepted := by
  have hhand : t.worker.hand = .gone := by
    unfold Worker.isGone at hgone
    split at hgone
    · assumption
    · cases hgone
  have hmark : t.stopMark = [] ∨ t.stopMark = [.stop] := by
    unfold stopMark
    split <;> simp
  have hpassage := h.passage_eq
  rw [passage, hhand, Hand.held, List.append_assoc, List.singleton_append] at hpassage
  exact (eq_of_append_stop hmark hpassage).1

/-- What was written was accepted before, in the same order. -/
theorem Orderly.written_sublist (h : t.Orderly) : t.written.Sublist t.accepted := by
  rw [h.accepted_eq, List.append_assoc]
  exact (List.filter_sublist.map _).trans (List.sublist_append_left _ _)

/-- What was dealt with was written or is a failure. -/
theorem Orderly.length_written (h : t.Orderly) :
    t.written.length + t.worker.failures = t.processed.length := by
  rw [h.failures_eq, written, lost, processed, List.length_map, List.length_map, List.length_map]
  exact (List.length_eq_length_filter_add fun d : ε × Bool => d.2).symm

/-! ## Once the file is closed -/

/-- From a state to a later one some entries were dealt with, and all of them are failures. -/
structure OnlyLost (t later : Trace ε) (entries : List ε) : Prop where
  dealt_eq : later.dealt = t.dealt ++ entries.map fun e => (e, false)
  failures_eq : later.worker.failures = t.worker.failures + entries.length

namespace OnlyLost

theorem refl (t : Trace ε) : OnlyLost t t [] := ⟨(List.append_nil _).symm, rfl⟩

theorem trans {entries entries' : List ε} (h : OnlyLost t next entries)
    (h' : OnlyLost next later entries') : OnlyLost t later (entries ++ entries') where
  dealt_eq := by rw [h'.dealt_eq, h.dealt_eq, List.map_append, List.append_assoc]
  failures_eq := by rw [h'.failures_eq, h.failures_eq, List.length_append, Nat.add_assoc]

theorem processed_eq {entries : List ε} (h : OnlyLost t later entries) :
    later.processed = t.processed ++ entries := by
  rw [processed, h.dealt_eq, List.map_append, List.map_map]
  exact congrArg _ (List.map_id entries)

/-- Nothing more was written. -/
theorem written_eq {entries : List ε} (h : OnlyLost t later entries) :
    later.written = t.written := by
  have hnone : (entries.map fun e => (e, false)).filter (·.2) = [] := by simp
  rw [written, h.dealt_eq, List.filter_append, hnone, List.append_nil, written]

end OnlyLost

theorem onlyLost_step (hfile : t.worker.fileOpen = false) (h : Step t a next) :
    next.worker.fileOpen = false ∧ ∃ entries, OnlyLost t next entries := by
  cases h with
  | @fail e _ => exact ⟨hfile, [e], ⟨rfl, rfl⟩⟩
  | write _ hopen =>
    rw [hfile] at hopen
    cases hopen
  | closeFile _ => exact ⟨rfl, [], ⟨(List.append_nil _).symm, rfl⟩⟩
  | accept _ | refuse _ | stop _ | stopAgain _ | take _ _ | heed _ | account _ | leave _ =>
    exact ⟨hfile, [], ⟨(List.append_nil _).symm, rfl⟩⟩

theorem onlyLost_run (hfile : t.worker.fileOpen = false) (h : t.run? actions = some later) :
    ∃ entries, OnlyLost t later entries := by
  induction actions generalizing t with
  | nil =>
    cases h
    exact ⟨[], .refl _⟩
  | cons a rest ih =>
    obtain ⟨next, hnext, hrest, -⟩ := run?_cons_eq_some h
    obtain ⟨hfile', entries, hentries⟩ := onlyLost_step hfile hnext
    obtain ⟨entries', hentries'⟩ := ih hfile' hrest
    exact ⟨entries ++ entries', hentries.trans hentries'⟩

end Trace

/-! ## Every run -/

/-- **No entry is lost, doubled or moved.**  After every sequence of actions of any clients and the
worker:

* the accepted entries are, in order, those that were dealt with, the one in hand and those in the
  queue;
* the written entries are some of them, in the same order, and each entry that was dealt with was
  written or is counted as a failure;
* what was ever put into the queue are the accepted entries and then, once the worker was asked to
  stop, one request to stop;
* when a client closes the file and the worker has stopped, every accepted entry was dealt with,
  and whether it has or not, nothing is written from then on and every entry that is dealt with
  later is counted as a failure. -/
theorem entries_delivered_in_order {actions : List (Action ε)} {t : Trace ε}
    (h : ({} : Trace ε).run? actions = some t) :
    t.accepted =
        t.processed ++ t.worker.hand.entry?.toList ++ t.worker.queue.filterMap Item.entry? ∧
      t.written.Sublist t.accepted ∧
      t.written.length + t.worker.failures = t.processed.length ∧
      ({} : Trace ε).enqueued actions =
        t.accepted.map .entry ++ (if t.worker.closed then [.stop] else []) ∧
      ∀ returned, t.act? .closeFile = some returned →
        (returned.worker.isGone = true →
          returned.processed = returned.accepted ∧
            returned.written.length + returned.worker.failures = returned.accepted.length) ∧
          ∀ afterwards later, returned.run? afterwards = some later →
            later.written = returned.written ∧
              ∃ entries, later.processed = returned.processed ++ entries ∧
                later.worker.failures = returned.worker.failures + entries.length := by
  have horderly := Trace.Orderly.start.run h
  refine ⟨horderly.accepted_eq, horderly.written_sublist, horderly.length_written, ?_, ?_⟩
  · have hpassage := Trace.passage_run h
    rw [horderly.passage_eq] at hpassage
    exact hpassage.symm
  · intro returned hclose
    have hstep := Trace.act?_eq_some_iff.1 hclose
    have hreturned := horderly.step hstep
    constructor
    · intro hgone
      have hprocessed := hreturned.processed_of_gone hgone
      exact ⟨hprocessed, by rw [hreturned.length_written, hprocessed]⟩
    · intro afterwards later hrun
      have hfile : returned.worker.fileOpen = false := by
        cases hstep
        rfl
      obtain ⟨entries, hlost⟩ := Trace.onlyLost_run hfile hrun
      exact ⟨hlost.written_eq, entries, hlost.processed_eq, hlost.failures_eq⟩

/-- The theorem where the file is closed while the worker still has the second of three entries in
hand, after a fourth came too late. -/
theorem entries_delivered_in_order_late :
    let actions : List (Action Nat) :=
      [.notify 1, .notify 2, .take, .handle true, .notify 3, .account, .requestStop, .notify 4,
        .take]
    let afterwards : List (Action Nat) :=
      [.handle false, .account, .take, .requestStop, .handle false, .account, .take, .handle false,
        .account]
    ∃ t returned later, ({} : Trace Nat).run? actions = some t ∧
      t.act? .closeFile = some returned ∧ returned.run? afterwards = some later ∧
      t.accepted = [1] ++ [2] ++ [3] ∧
      ({} : Trace Nat).enqueued actions = [.entry 1, .entry 2, .entry 3, .stop] ∧
      later.worker.isGone = true ∧ later.written = [1] ∧ later.worker.failures = 2 := by
  intro actions afterwards
  obtain ⟨t, ht⟩ : ∃ t, ({} : Trace Nat).run? actions = some t := ⟨_, rfl⟩
  obtain ⟨returned, hreturned⟩ : ∃ returned, t.act? .closeFile = some returned := by
    cases ht
    exact ⟨_, rfl⟩
  obtain ⟨later, hlater⟩ : ∃ later, returned.run? afterwards = some later := by
    cases ht
    cases hreturned
    exact ⟨_, rfl⟩
  obtain ⟨haccepted, -, -, henqueued, hclose⟩ := entries_delivered_in_order ht
  obtain ⟨-, hafter⟩ := hclose returned hreturned
  obtain ⟨hwritten, -⟩ := hafter afterwards later hlater
  refine ⟨t, returned, later, ht, hreturned, hlater, ?_, ?_, ?_, ?_, ?_⟩
  · rw [haccepted]
    cases ht
    rfl
  · rw [henqueued]
    cases ht
    rfl
  · cases ht
    cases hreturned
    cases hlater
    rfl
  · rw [hwritten]
    cases ht
    cases hreturned
    rfl
  · cases ht
    cases hreturned
    cases hlater
    rfl

end DeskCalculator
