import DeskCalculator.Proofs.BoundedStack.Capacity

/-!
# A stack beside a list

Apart from pushes for which there is no room, a stack answers as a list does that has no capacity.
What it does when there is no room is nothing at all: the push fails, and everything goes on as if
nobody had asked for it.

* `BoundedStack.Call`, `BoundedStack.listAnswer` — the calls, and what a list answers to them.
* `BoundedStack.User` — what is done with a stack, in blocks that are left in any way.
* `BoundedStack.Event.IsFaithful` — what is to be said of a single call;
  `BoundedStack.isFaithful_eventOf` says that it holds of all of them.
* `BoundedStack.Leads` — calls one after another.  `BoundedStack.Leads.successful` drops those that
  fail, and `BoundedStack.Leads.listAnswers_eq` compares the others with a list.
* `stack_answers_as_list` — all that a user does.
-/

namespace DeskCalculator

namespace BoundedStack

variable {α : Type} {s t : BoundedStack α} {a : α}

/-! ## Calls -/

/-- A call of a stack. -/
inductive Call (α : Type) where
  | push (a : α)
  | pop
  | peek
  | isEmpty
  | clear
  | iterate
  /-- The call at the end of a block. -/
  | leave

/-- The operation that is called.  Leaving a block is all that an empty block does. -/
def Call.request : Call α → Request α
  | .push a => .push a
  | .pop => .pop
  | .peek => .peek
  | .isEmpty => .isEmpty
  | .clear => .clear
  | .iterate => .iterate
  | .leave => .block [] false

/-- What a list answers that is a stack without a capacity, its top first, and what becomes of
it. -/
def listAnswer (l : List α) : Call α → Reply α × List α
  | .push a => (.done, a :: l)
  | .pop => (.element l.head?, l.tail)
  | .peek => (.element l.head?, l)
  | .isEmpty => (.truth l.isEmpty, l)
  | .clear => (.elements l, [])
  | .iterate => (.elements l, l)
  | .leave => (.done, [])

/-- What a list answers to one call after another. -/
def listAnswers (l : List α) : List (Call α) → List (Reply α) × List α
  | [] => ([], l)
  | c :: rest =>
    let (reply, m) := listAnswer l c
    let (replies, n) := listAnswers m rest
    (reply :: replies, n)

/-- A call, the answer to it, and the stack before and after. -/
structure Event (α : Type) where
  before : BoundedStack α
  call : Call α
  reply : Reply α
  after : BoundedStack α

/-- What happens at a call. -/
def eventOf (s : BoundedStack α) (c : Call α) : Event α :=
  ⟨s, c, (s.respond c.request).1, (s.respond c.request).2⟩

/-- Whether a call fails. -/
def Event.fails (e : Event α) : Bool :=
  match e.reply with
  | .failed _ => true
  | _ => false

/-! ## Users -/

/-- What is done with a stack.  What comes next may depend on the answers so far.  After a call that
fails a user can go on as well as be interrupted; an interruption leaves the block, and what follows
the block is told of it. -/
inductive User (α : Type) where
  | stop (interrupted : Bool)
  | call (c : Call α) (next : Reply α → User α)
  | block (body : User α) (next : Bool → User α)

/-- What came of a user: all that happened, whether it ended with an interruption, and the stack. -/
structure Run (α : Type) where
  events : List (Event α)
  interrupted : Bool
  stack : BoundedStack α

/-- Let a user have a stack. -/
def User.run : User α → BoundedStack α → Run α
  | .stop interrupted, s => ⟨[], interrupted, s⟩
  | .call c next, s =>
    let e := s.eventOf c
    let rest := (next e.reply).run e.after
    { rest with events := e :: rest.events }
  | .block body next, s =>
    let inside := body.run s
    let e := inside.stack.eventOf .leave
    let rest := (next inside.interrupted).run e.after
    { rest with events := inside.events ++ e :: rest.events }

/-- A user that pushes some values and stops, or is interrupted by a push that fails. -/
def User.pushing (interrupted : Bool) : List α → User α
  | [] => .stop interrupted
  | a :: rest => .call (.push a) fun reply =>
    match reply with
    | .failed _ => .stop true
    | _ => pushing interrupted rest

/-! ## Single calls -/

/-- What is to be said of a call.  It fails if and only if it is a push that finds the stack full
and its next growth out of range, and then nothing changes.  Else it is answered as by a list.
Unless it is a push it leaves the account of the capacity alone. -/
structure Event.IsFaithful (e : Event α) : Prop where
  fails_iff : e.fails = true ↔ ∃ a, e.call = .push a ∧
    e.before.toList.length = e.before.capacity ∧
    largestCapacity < e.before.capacity + e.before.growth
  unchanged : e.fails = true → e.reply = .failed .capacityOverflow ∧ e.after = e.before
  answer : e.fails = false → (e.reply, e.after.toList) = listAnswer e.before.toList e.call
  account : (∀ a, e.call ≠ .push a) →
    e.after.capacity = e.before.capacity ∧ e.after.growCount = e.before.growCount
  growth : e.after.growth = e.before.growth

/-- A push fails if the stack is full and cannot grow, and is done else. -/
theorem push?_cases (s : BoundedStack α) (a : α) :
    (s.size = s.capacity ∧ largestCapacity < s.capacity + s.growth) ∧
        s.push? a = .error .capacityOverflow ∨
      ¬ (s.size = s.capacity ∧ largestCapacity < s.capacity + s.growth) ∧
        ∃ t, s.push? a = .ok t ∧ t.growth = s.growth := by
  unfold push? grow?
  by_cases hfull : s.size = s.capacity
  · by_cases hrange : largestCapacity < s.capacity + s.growth
    · rw [if_pos hfull, if_pos hrange]
      exact .inl ⟨⟨hfull, hrange⟩, rfl⟩
    · rw [if_pos hfull, if_neg hrange]
      exact .inr ⟨fun h => hrange h.2, _, rfl, rfl⟩
  · rw [if_neg hfull]
    exact .inr ⟨fun h => hfull h.1, _, rfl, rfl⟩

theorem isFaithful_push (s : BoundedStack α) (a : α) : (s.eventOf (.push a)).IsFaithful := by
  have hlength : s.toList.length = s.size := s.size_eq.symm
  rcases s.push?_cases a with ⟨hcannot, hpush⟩ | ⟨hcan, t, hpush, hgrowth⟩
  · have hrespond : s.eventOf (.push a) = ⟨s, .push a, .failed .capacityOverflow, s⟩ := by
      simp only [eventOf, Call.request, respond, hpush]
    rw [hrespond]
    exact
      { fails_iff := iff_of_true rfl ⟨a, rfl, hlength.trans hcannot.1, hcannot.2⟩
        unchanged := fun _ => ⟨rfl, rfl⟩
        answer := fun h => by cases h
        account := fun _ => ⟨rfl, rfl⟩
        growth := rfl }
  · have hrespond : s.eventOf (.push a) = ⟨s, .push a, .done, t⟩ := by
      simp only [eventOf, Call.request, respond, hpush]
    have hroom : ¬ ∃ b, Call.push a = .push b ∧ s.toList.length = s.capacity ∧
        largestCapacity < s.capacity + s.growth := by
      rintro ⟨b, -, hfull, hrange⟩
      exact hcan ⟨hlength.symm.trans hfull, hrange⟩
    rw [hrespond]
    exact
      { fails_iff := iff_of_false Bool.false_ne_true hroom
        unchanged := fun h => by cases h
        answer := fun _ => by rw [toList_push hpush]; rfl
        account := fun h => absurd rfl (h a)
        growth := hgrowth }

/-- Without regard to pushes, a stack answers as its list does. -/
theorem respond_eq_listAnswer {c : Call α} (hc : ∀ a, c ≠ .push a) :
    ((s.respond c.request).1, (s.respond c.request).2.toList) = listAnswer s.toList c := by
  cases c with
  | push a => exact absurd rfl (hc a)
  | peek | isEmpty | iterate => rfl
  | pop => exact Prod.ext rfl (toList_pop s)
  | clear | leave => exact Prod.ext rfl (toList_clear s)

/-- Every call is answered as by a list, but for a push without room. -/
theorem isFaithful_eventOf (s : BoundedStack α) (c : Call α) : (s.eventOf c).IsFaithful := by
  cases c with
  | push a => exact s.isFaithful_push a
  | pop | peek | isEmpty | clear | iterate | leave =>
    exact
      { fails_iff := iff_of_false Bool.false_ne_true (by rintro ⟨a, hcall, -⟩; cases hcall)
        unchanged := fun h => by cases h
        answer := fun _ => respond_eq_listAnswer (by rintro a hcall; cases hcall)
        account := fun _ => ⟨rfl, rfl⟩
        growth := rfl }

/-! ## Calls one after another -/

/-- Events that happen one after another, from one stack to another. -/
inductive Leads : BoundedStack α → List (Event α) → BoundedStack α → Prop
  | done (s : BoundedStack α) : Leads s [] s
  | call {s t : BoundedStack α} (c : Call α) {events : List (Event α)} :
      Leads (s.eventOf c).after events t → Leads s (s.eventOf c :: events) t

/-- The events whose calls do not fail. -/
def successful (events : List (Event α)) : List (Event α) := events.filter (!·.fails)

namespace Leads

variable {events : List (Event α)} {e : Event α}

theorem append {u : BoundedStack α} {later : List (Event α)} (h : Leads s events t)
    (hlater : Leads t later u) : Leads s (events ++ later) u := by
  induction h with
  | done => exact hlater
  | call c _ ih => exact .call c (ih hlater)

/-- What a user does is one call after another. -/
theorem run (u : User α) (s : BoundedStack α) : Leads s (u.run s).events (u.run s).stack := by
  induction u generalizing s with
  | stop interrupted => exact .done _
  | call c next ih => exact .call c (ih _ _)
  | block body next ihBody ihNext => exact (ihBody s).append (.call .leave (ihNext _ _))

theorem respondAll_eq (h : Leads s events t) :
    s.respondAll (events.map (·.call.request)) = (events.map (·.reply), t) := by
  induction h with
  | done => rfl
  | call c _ ih =>
    rw [List.map_cons, respondAll]
    exact Prod.ext (congrArg (_ :: ·.1) ih) (congrArg (·.2) ih)

theorem isFaithful (h : Leads s events t) (he : e ∈ events) : e.IsFaithful := by
  induction h with
  | done => cases he
  | call c _ ih =>
    rcases List.mem_cons.1 he with rfl | he
    · exact isFaithful_eventOf _ c
    · exact ih he

/-- The growth is the one that the stack was made with. -/
theorem growth_eq (h : Leads s events t) (he : e ∈ events) : e.before.growth = s.growth := by
  induction h with
  | done => cases he
  | call c _ ih =>
    rcases List.mem_cons.1 he with rfl | he
    · rfl
    · exact (ih he).trans (isFaithful_eventOf _ c).growth

/-- What fails might as well not have been called. -/
theorem successful (h : Leads s events t) : Leads s (successful events) t := by
  induction h with
  | done => exact .done _
  | @call s t c events _ ih =>
    unfold BoundedStack.successful at ih ⊢
    cases hfails : (s.eventOf c).fails with
    | true =>
      rw [List.filter_cons_of_neg (by simp [hfails])]
      rw [((isFaithful_eventOf s c).unchanged hfails).2] at ih
      exact ih
    | false =>
      rw [List.filter_cons_of_pos (by simp [hfails])]
      exact .call c ih

/-- Without failures all answers are those of a list. -/
theorem listAnswers_eq (h : Leads s events t) (hfails : ∀ e ∈ events, e.fails = false) :
    listAnswers s.toList (events.map (·.call)) = (events.map (·.reply), t.toList) := by
  induction h with
  | done => rfl
  | @call s t c events _ ih =>
    obtain ⟨hfirst, hrest⟩ := List.forall_mem_cons.1 hfails
    have hanswer : listAnswer s.toList c = _ := ((isFaithful_eventOf s c).answer hfirst).symm
    rw [List.map_cons, listAnswers, show (s.eventOf c).call = c from rfl, hanswer]
    exact Prod.ext (congrArg (_ :: ·.1) (ih hrest)) (congrArg (·.2) (ih hrest))

end Leads

/-! ## Blocks of pushes -/

/-- A user who pushes some values leaves the stack that the pushes leave. -/
theorem run_pushing (interrupted : Bool) (values : List α) (s : BoundedStack α) :
    ((User.pushing interrupted values).run s).stack = (s.pushAll values).2 ∧
      ((User.pushing interrupted values).run s).interrupted =
        ((s.pushAll values).1.isSome || interrupted) := by
  induction values generalizing s with
  | nil => exact ⟨rfl, rfl⟩
  | cons a rest ih =>
    cases hpush : s.push? a with
    | error e =>
      simp only [User.pushing, User.run, eventOf, Call.request, respond, hpush, pushAll]
      exact ⟨trivial, rfl⟩
    | ok t =>
      simp only [User.pushing, User.run, eventOf, Call.request, respond, hpush, pushAll]
      exact ih t

/-- The operation that pushes values in a block does what a user does who pushes them there. -/
theorem respond_block (interrupted : Bool) (values : List α) (s : BoundedStack α) :
    let inside := (User.block (.pushing interrupted values) .stop).run s
    inside.stack = (s.respond (.block values interrupted)).2 ∧
      (inside.interrupted = false ↔ (s.respond (.block values interrupted)).1 = .done) := by
  obtain ⟨hstack, hinterrupted⟩ := run_pushing interrupted values s
  have hinside : (User.block (.pushing interrupted values) .stop).run s =
      ⟨_, ((User.pushing interrupted values).run s).interrupted,
        ((User.pushing interrupted values).run s).stack.clear.2⟩ := rfl
  intro inside
  rw [show inside = _ from hinside, hstack, hinterrupted, respond]
  obtain ⟨failure, t⟩ := s.pushAll values
  cases failure with
  | some e => exact ⟨rfl, by simp⟩
  | none => cases interrupted <;> exact ⟨rfl, by simp⟩

end BoundedStack

open BoundedStack in
/-- **A stack answers as a list does, but for pushes without room.**  A stack is made with any
capacity from zero to the largest one and any growth from one on, and given to any user, who works
in blocks within blocks and leaves them at their end or by an interruption.  Then a call fails if
and only if it is a push that finds the stack full and its next growth beyond the largest capacity,
and it changes nothing.  All other calls are answered as by a list without a capacity, which never
saw those that failed; and so would be a stack that never saw them, which ends as this one does.
What a block of pushes is to the library is the same as to a user. -/
theorem stack_answers_as_list {α : Type} {limits : StackLimits}
    (hcapacity : 0 ≤ limits.capacity) (hlargest : limits.capacity ≤ largestCapacity)
    (hgrowth : 1 ≤ limits.growth) (user : User α) :
    ∃ s : BoundedStack α, new? limits = .ok s ∧
      let run := user.run s
      let kept := successful run.events
      s.respondAll (run.events.map (·.call.request)) = (run.events.map (·.reply), run.stack) ∧
      (∀ e ∈ run.events, e.IsFaithful ∧ (e.before.growth : Int) = limits.growth) ∧
      listAnswers [] (kept.map (·.call)) = (kept.map (·.reply), run.stack.toList) ∧
      s.respondAll (kept.map (·.call.request)) = (kept.map (·.reply), run.stack) ∧
      ∀ (t : BoundedStack α) (values : List α) (interrupted : Bool),
        let inside := (User.block (.pushing interrupted values) .stop).run t
        inside.stack = (t.respond (.block values interrupted)).2 ∧
          (inside.interrupted = false ↔ (t.respond (.block values interrupted)).1 = .done) := by
  obtain ⟨s, hnew⟩ := exists_new?_eq_ok (α := α) hcapacity hlargest hgrowth
  have hholds := holds_new hnew
  have hleads := Leads.run user s
  have hkept := hleads.successful
  have hanswers := hkept.listAnswers_eq fun e he => by simpa using (List.mem_filter.1 he).2
  rw [hholds.toList_eq] at hanswers
  refine ⟨s, hnew, hleads.respondAll_eq, fun e he => ⟨hleads.isFaithful he, ?_⟩, hanswers,
    hkept.respondAll_eq, fun t values interrupted => respond_block interrupted values t⟩
  rw [hleads.growth_eq he]
  exact hholds.growth_eq

open BoundedStack in
/-- The theorem at a stack that can hold one element and never more.  Its user goes on after a push
that fails, and in a block, which begins with the element that is there, is interrupted by another
one; the stack is empty behind the block. -/
theorem stack_answers_as_list_full :
    let limits : StackLimits := ⟨1, 9223372036854775807⟩
    let user : User Nat := .call (.push 1) fun _ => .call (.push 2) fun _ => .call .iterate fun _ =>
      .block (.call .pop fun _ => .pushing false [3, 4]) fun interrupted =>
        if interrupted then .call .peek fun _ => .stop false else .stop false
    let calls : List (Call Nat) := [.push 1, .iterate, .pop, .push 3, .leave, .peek]
    0 ≤ limits.capacity ∧ limits.capacity ≤ largestCapacity ∧ 1 ≤ limits.growth ∧
      ∃ s : BoundedStack Nat, new? limits = .ok s ∧
        (user.run s).events.map (·.reply) =
          [.done, .failed .capacityOverflow, .elements [1], .element (some 1), .done,
            .failed .capacityOverflow, .done, .element none] ∧
        listAnswers [] calls =
          ([.done, .elements [1], .element (some 1), .done, .done, .element none], []) ∧
        (s.respondAll (calls.map Call.request)).2 = (user.run s).stack := by
  intro limits user calls
  have hcapacity : 0 ≤ limits.capacity := by decide
  have hlargest : limits.capacity ≤ largestCapacity := by decide
  have hgrowth : 1 ≤ limits.growth := by decide
  obtain ⟨s, hnew, -, -, hlist, hkept, -⟩ :=
    stack_answers_as_list hcapacity hlargest hgrowth user
  have hmade : new? limits = .ok (⟨[], 0, 1, 9223372036854775807, 0, rfl⟩ : BoundedStack Nat) :=
    rfl
  cases hmade.symm.trans hnew
  exact ⟨hcapacity, hlargest, hgrowth, _, hnew, rfl, hlist, congrArg (·.2) hkept⟩

end DeskCalculator
