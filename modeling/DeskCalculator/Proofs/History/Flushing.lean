import DeskCalculator.Proofs.History.Delivery

/-!
# Waiting for the worker

The count of unfinished items rises with every item that is put into the queue, and falls when the
worker accounts for one, which it does last.  So the count is zero only if nothing is in the queue
and nothing in the worker's hands, and a client that has seen it at zero knows that whatever was
accepted before is written or counted as a failure.

* `Trace.Counted` — the invariant: the count is what is in the queue and in the worker's hands.
* `Trace.Counted.step`, `Trace.Counted.run` — every action keeps it, and so does every run.
* `Trace.unfinished_run` — the count is what was put into the queue less what was accounted for.
* `Trace.exists_run_of_flush?` — waiting is a run, and the answer tells how the count was at its
  end.
* `flush_waits_for_accepted` — what a client knows that has waited.
-/

namespace DeskCalculator

variable {ε : Type}

/-- The number of items that the worker holds and has not accounted for. -/
def Hand.pending : Hand ε → Nat
  | .taken _ | .handled _ => 1
  | .empty | .gone => 0

/-- The worker accounts for an item. -/
def Action.isAccount : Action ε → Bool
  | .account => true
  | .notify _ | .requestStop | .closeFile | .take | .handle _ => false

namespace Trace

variable {t next later reached : Trace ε} {a : Action ε} {actions : List (Action ε)}

/-! ## The count -/

/-- The count of unfinished items is what is in the queue and in the worker's hands. -/
def Counted (t : Trace ε) : Prop :=
  t.worker.unfinished = t.worker.queue.length + t.worker.hand.pending

theorem Counted.start : Counted ({} : Trace ε) := rfl

theorem Counted.step (ht : t.Counted) (h : Step t a next) : next.Counted := by
  unfold Counted at ht ⊢
  cases h with
  | accept _ | stop _ =>
    simp only [Worker.enqueue, List.length_append, List.length_singleton]
    omega
  | refuse _ | stopAgain _ | closeFile _ => exact ht
  | take hhand hqueue | write hhand _ | fail hhand | heed hhand | account hhand | leave hhand =>
    simp_all [Hand.pending]

theorem Counted.run (ht : t.Counted) (h : t.run? actions = some later) : later.Counted := by
  induction actions generalizing t with
  | nil =>
    cases h
    exact ht
  | cons a rest ih =>
    obtain ⟨next, hnext, hrest, -⟩ := run?_cons_eq_some h
    exact ih (ht.step hnext) hrest

/-- There is always something to account for when the worker does it, and nothing else lowers the
count. -/
theorem unfinished_step (ht : t.Counted) (h : Step t a next) :
    next.worker.unfinished + (if a.isAccount then 1 else 0) =
      t.worker.unfinished + (next.worker.queue.drop t.worker.queue.length).length := by
  have hnext := ht.step h
  unfold Counted at ht hnext
  cases h with
  | accept _ | stop _ => simp [Worker.enqueue, Action.isAccount]
  | refuse _ | stopAgain _ | closeFile _ | write _ _ | fail _ | heed _ =>
    simp [Worker.closeFile, Action.isAccount]
  | take _ hqueue => simp [hqueue, Action.isAccount]
  | account hhand | leave hhand =>
    rw [hhand, Hand.pending] at ht
    simp only [Action.isAccount, if_true, List.drop_length, List.length_nil]
    omega

/-- The count is what was put into the queue less what was accounted for. -/
theorem unfinished_run (ht : t.Counted) (h : t.run? actions = some later) :
    later.worker.unfinished + actions.countP Action.isAccount =
      t.worker.unfinished + (t.enqueued actions).length := by
  induction actions generalizing t with
  | nil =>
    cases h
    rfl
  | cons a rest ih =>
    obtain ⟨next, hnext, hrest, henqueued⟩ := run?_cons_eq_some h
    have hstep := unfinished_step ht hnext
    have hlater := ih (ht.step hnext) hrest
    rw [henqueued, List.length_append, List.countP_cons]
    omega

/-! ## What stays -/

/-- What was accepted stays accepted, and what was dealt with stays dealt with. -/
theorem prefix_step (h : Step t a next) :
    t.accepted <+: next.accepted ∧ t.processed <+: next.processed := by
  cases h with
  | accept _ => exact ⟨List.prefix_append _ _, List.prefix_refl _⟩
  | write _ _ | fail _ => exact ⟨List.prefix_refl _, by simp [processed]⟩
  | refuse _ | stop _ | stopAgain _ | closeFile _ | take _ _ | heed _ | account _ | leave _ =>
    exact ⟨List.prefix_refl _, List.prefix_refl _⟩

theorem prefix_run (h : t.run? actions = some later) :
    t.accepted <+: later.accepted ∧ t.processed <+: later.processed := by
  induction actions generalizing t with
  | nil =>
    cases h
    exact ⟨List.prefix_refl _, List.prefix_refl _⟩
  | cons a rest ih =>
    obtain ⟨next, hnext, hrest, -⟩ := run?_cons_eq_some h
    obtain ⟨haccepted, hprocessed⟩ := prefix_step hnext
    obtain ⟨haccepted', hprocessed'⟩ := ih hrest
    exact ⟨haccepted.trans haccepted', hprocessed.trans hprocessed'⟩

/-! ## Waiting -/

/-- Waiting is a run, and the answer tells whether the count was zero at its end. -/
theorem exists_run_of_flush? {looks : List (List (Action ε) × Bool)} {answer : Bool}
    (h : t.flush? looks = some (answer, reached)) :
    ∃ actions, t.run? actions = some reached ∧ answer = reached.worker.isFlushed := by
  induction looks generalizing t with
  | nil => cases h
  | cons look rest ih =>
    obtain ⟨actions, late⟩ := look
    rw [flush?] at h
    obtain ⟨next, hrun, hlook⟩ := Option.bind_eq_some_iff.1 h
    cases hflushed : next.worker.isFlushed with
    | true =>
      rw [hflushed, if_pos rfl] at hlook
      cases hlook
      exact ⟨actions, hrun, hflushed.symm⟩
    | false =>
      rw [hflushed, if_neg Bool.false_ne_true] at hlook
      cases late with
      | true =>
        cases hlook
        exact ⟨actions, hrun, hflushed.symm⟩
      | false =>
        obtain ⟨actions', hrun', hanswer⟩ := ih hlook
        refine ⟨actions ++ actions', ?_, hanswer⟩
        rw [run?_append, hrun]
        exact hrun'

/-- When everything is accounted for, every accepted entry was dealt with. -/
theorem Counted.processed_of_flushed (ht : t.Counted) (horderly : t.Orderly)
    (hflushed : t.worker.isFlushed = true) : t.processed = t.accepted := by
  have hzero : t.worker.queue.length + t.worker.hand.pending = 0 := by
    rw [← ht]
    exact beq_iff_eq.1 hflushed
  have hqueue : t.worker.queue = [] := List.length_eq_zero_iff.1 (by omega)
  have hhand : t.worker.hand.entry? = none := by
    cases hhand : t.worker.hand with
    | taken i =>
      rw [hhand, Hand.pending] at hzero
      omega
    | empty | handled i | gone => rfl
  rw [horderly.accepted_eq, hqueue, hhand]
  simp

end Trace

/-! ## Every run -/

/-- **Whoever has waited finds everything dealt with.**  After every sequence of actions of any
clients and the worker:

* the count of unfinished items is the number of items in the queue, the request to stop included,
  and one more if the worker holds an item that it has not accounted for; so it is the number of
  items ever put into the queue less the number accounted for, and whenever the worker accounts for
  one there is one to account for;
* a client that begins to wait then, and has an answer at some time, whatever the others and the
  worker did meanwhile, is told that everything is accounted for if and only if the count was zero
  when it last looked; and from then on the entries that were accepted before it began are the
  first of those that were dealt with, each of which was written or is counted as a failure. -/
theorem flush_waits_for_accepted {actions : List (Action ε)} {t : Trace ε}
    (h : ({} : Trace ε).run? actions = some t) :
    t.worker.unfinished = t.worker.queue.length + t.worker.hand.pending ∧
      t.worker.unfinished + actions.countP Action.isAccount =
        (({} : Trace ε).enqueued actions).length ∧
      (∀ next, t.act? .account = some next →
        next.worker.unfinished + 1 = t.worker.unfinished) ∧
      ∀ looks answer reached, t.flush? looks = some (answer, reached) →
        (answer = true ↔ reached.worker.unfinished = 0) ∧
          (answer = true → ∀ afterwards later, reached.run? afterwards = some later →
            t.accepted <+: later.processed ∧ later.worker.failures = later.lost.length ∧
              later.written.length + later.worker.failures = later.processed.length) := by
  have hcounted := Trace.Counted.start.run h
  have horderly := Trace.Orderly.start.run h
  refine ⟨hcounted, ?_, fun next hnext => ?_, fun looks answer reached hflush => ?_⟩
  · have hrun := Trace.unfinished_run Trace.Counted.start h
    exact hrun.trans (Nat.zero_add _)
  · have hstep := Trace.act?_eq_some_iff.1 hnext
    have haccount := Trace.unfinished_step hcounted hstep
    have hnothing : next.worker.queue.drop t.worker.queue.length = [] := by
      cases hstep <;> exact List.drop_length
    rw [hnothing] at haccount
    exact haccount
  · obtain ⟨meanwhile, hrun, hanswer⟩ := Trace.exists_run_of_flush? hflush
    refine ⟨by rw [hanswer]; exact beq_iff_eq, fun htrue afterwards later hlater => ?_⟩
    have hflushed : reached.worker.isFlushed = true := hanswer.symm.trans htrue
    have hdealt := (hcounted.run hrun).processed_of_flushed (horderly.run hrun) hflushed
    have hend := (horderly.run hrun).run hlater
    refine ⟨?_, hend.failures_eq, hend.length_written⟩
    exact (hdealt ▸ (Trace.prefix_run hrun).1).trans (Trace.prefix_run hlater).2

/-- The theorem where a client begins to wait while the first of two entries is in the worker's
hands, which is not written.  A third entry comes meanwhile, another client asks the worker to stop,
and the time is up just when the count is zero. -/
theorem flush_waits_for_accepted_late :
    let actions : List (Action Nat) := [.notify 1, .notify 2, .take]
    let looks : List (List (Action Nat) × Bool) :=
      [([.notify 3, .handle false], false),
        ([.account, .take, .requestStop, .handle true, .account], false),
        ([.take, .handle true, .account, .take, .handle false, .account], true)]
    let afterwards : List (Action Nat) := [.notify 4, .closeFile]
    ∃ t reached later, ({} : Trace Nat).run? actions = some t ∧
      t.flush? looks = some (true, reached) ∧ reached.run? afterwards = some later ∧
      t.worker.unfinished = 1 + 1 ∧ reached.worker.unfinished = 0 ∧ t.accepted = [1, 2] ∧
      [1, 2] <+: later.processed ∧ later.processed = [1, 2, 3] ∧ later.worker.failures = 1 := by
  intro actions looks afterwards
  obtain ⟨t, ht⟩ : ∃ t, ({} : Trace Nat).run? actions = some t := ⟨_, rfl⟩
  obtain ⟨reached, hreached⟩ : ∃ reached, t.flush? looks = some (true, reached) := by
    cases ht
    exact ⟨_, rfl⟩
  obtain ⟨later, hlater⟩ : ∃ later, reached.run? afterwards = some later := by
    cases ht
    cases hreached
    exact ⟨_, rfl⟩
  obtain ⟨hcount, -, -, hflush⟩ := flush_waits_for_accepted ht
  obtain ⟨hzero, hwaited⟩ := hflush looks true reached hreached
  obtain ⟨hdealt, hfailures, -⟩ := hwaited rfl afterwards later hlater
  have haccepted : t.accepted = [1, 2] := by
    cases ht
    rfl
  refine ⟨t, reached, later, ht, hreached, hlater, ?_, hzero.1 rfl, haccepted,
    haccepted ▸ hdealt, ?_, ?_⟩
  · rw [hcount]
    cases ht
    rfl
  · cases ht
    cases hreached
    cases hlater
    rfl
  · rw [hfailures]
    cases ht
    cases hreached
    cases hlater
    rfl

end DeskCalculator
