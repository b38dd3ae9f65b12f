import DeskCalculator.Proofs.Parser.Room
import Mathlib.Data.List.Chain
import Mathlib.Order.Bounds.Defs

/-!
# How far a stack has grown

A stack grows when a push finds it full, and never becomes smaller.  So its capacity tells how many
elements it held at most: it is the first one of the capacities `c`, `c + g`, `c + 2 * g`, ... that
is room enough for the largest size that it ever had.

* `BoundedStack.statesDuring` — the stack at every point of a run, within blocks too.
* `BoundedStack.Becomes` — what can happen between two points; `isChain_statesDuring` says that
  nothing else does.
* `BoundedStack.Tracks` — the invariant: the largest size so far fits, and would not fit with one
  growth less.
* `BoundedStack.Tracks.becomes`, `BoundedStack.Tracks.chain` — every step keeps it, and so does
  every run.
* `capacity_tracks_largest_size` — the capacity at every point of a run.
-/

namespace DeskCalculator

namespace BoundedStack

variable {α : Type} {limits : StackLimits} {s t : BoundedStack α} {a : α} {peak : Nat}

/-! ## The points of a run -/

/-- The stack after each push of a block, up to one that fails. -/
def pushStates (s : BoundedStack α) : List α → List (BoundedStack α)
  | [] => []
  | a :: rest =>
    match s.push? a with
    | .ok t => t :: t.pushStates rest
    | .error _ => []

/-- The stack at the points within an operation, before its end.  Only a block has any. -/
def statesWithin (s : BoundedStack α) : Request α → List (BoundedStack α)
  | .block values _ => s.pushStates values
  | .push _ | .pop | .peek | .isEmpty | .clear | .iterate | .show => []

/-- The stack at all points of a run, except for its beginning. -/
def statesDuring (s : BoundedStack α) : List (Request α) → List (BoundedStack α)
  | [] => []
  | r :: rest => s.statesWithin r ++ (s.respond r).2 :: (s.respond r).2.statesDuring rest

/-- The largest size that a stack had at some points. -/
def largestSize (past : List (BoundedStack α)) : Nat := (past.map size).foldr max 0

theorem largestSize_cons (s : BoundedStack α) (past : List (BoundedStack α)) :
    largestSize (s :: past) = max s.size (largestSize past) := rfl

theorem largestSize_singleton (s : BoundedStack α) : largestSize [s] = s.size := Nat.max_zero _

/-! ## What can happen -/

/-- What can happen to a stack from one point to the next. -/
inductive Becomes (s : BoundedStack α) : BoundedStack α → Prop
  /-- It stays as it is. -/
  | stay : Becomes s s
  /-- An element is put on top. -/
  | push {a : α} {t : BoundedStack α} : s.push? a = .ok t → Becomes s t
  /-- Some elements are taken off. -/
  | dropTop (n : Nat) : Becomes s (s.dropTop n)

/-- A block pushes its values one after another, as far as that goes, and empties the stack. -/
theorem isChain_block (s : BoundedStack α) (values : List α) :
    List.IsChain Becomes (s :: (s.pushStates values ++ [(s.pushAll values).2.clear.2])) := by
  induction values generalizing s with
  | nil => exact List.isChain_pair.2 (.dropTop _)
  | cons a rest ih =>
    rw [pushStates, pushAll]
    cases hpush : s.push? a with
    | error e => exact List.isChain_pair.2 (.dropTop _)
    | ok t => exact List.isChain_cons_cons.2 ⟨.push hpush, ih t⟩

theorem isChain_respond (s : BoundedStack α) (r : Request α) :
    List.IsChain Becomes (s :: (s.statesWithin r ++ [(s.respond r).2])) := by
  cases r with
  | push a =>
    refine List.isChain_pair.2 ?_
    rw [respond]
    cases hpush : s.push? a with
    | error e => exact .stay
    | ok t => exact .push hpush
  | pop => exact List.isChain_pair.2 (.dropTop 1)
  | clear => exact List.isChain_pair.2 (.dropTop s.size)
  | peek | isEmpty | iterate | «show» => exact List.isChain_pair.2 .stay
  | block values interrupted =>
    have hend : (s.respond (.block values interrupted)).2 = (s.pushAll values).2.clear.2 := by
      rw [respond]
      obtain ⟨failure, t⟩ := s.pushAll values
      cases failure <;> rfl
    rw [hend]
    exact isChain_block s values

/-- From one point of a run to the next only such things happen. -/
theorem isChain_statesDuring (s : BoundedStack α) (requests : List (Request α)) :
    List.IsChain Becomes (s :: s.statesDuring requests) := by
  induction requests generalizing s with
  | nil => exact .singleton s
  | cons r rest ih =>
    exact List.isChain_cons_split.2 ⟨isChain_respond s r, ih (s.respond r).2⟩

/-- A run ends with the stack that its operations leave. -/
theorem getLast?_statesDuring (s : BoundedStack α) (requests : List (Request α)) :
    (s :: s.statesDuring requests).getLast? = some (s.respondAll requests).2 := by
  induction requests generalizing s with
  | nil => rfl
  | cons r rest ih =>
    rw [statesDuring, ← List.cons_append, List.getLast?_append_cons, ih]
    rfl

/-! ## Growth -/

/-- What a push does to the account: a full stack grows first. -/
theorem account_of_push (h : s.push? a = .ok t) :
    t.size = s.size + 1 ∧
      (s.size = s.capacity ∧ t.capacity = s.capacity + s.growth ∧ t.growCount = s.growCount + 1 ∨
        s.size ≠ s.capacity ∧ t.capacity = s.capacity ∧ t.growCount = s.growCount) := by
  unfold push? at h
  by_cases hfull : s.size = s.capacity
  · rw [if_pos hfull] at h
    unfold grow? at h
    split at h
    · cases h
    · cases h
      exact ⟨rfl, .inl ⟨hfull, rfl, rfl⟩⟩
  · rw [if_neg hfull] at h
    cases h
    exact ⟨rfl, .inr ⟨hfull, rfl, rfl⟩⟩

/-- Nothing makes a stack smaller. -/
theorem Becomes.account_le (h : Becomes s t) :
    s.capacity ≤ t.capacity ∧ s.growCount ≤ t.growCount := by
  cases h with
  | stay | dropTop _ => exact ⟨Nat.le_refl _, Nat.le_refl _⟩
  | push hpush =>
    obtain ⟨-, ⟨-, hcapacity, hcount⟩ | ⟨-, hcapacity, hcount⟩⟩ := account_of_push hpush <;> omega

/-- What no step lowers never falls. -/
theorem pairwise_le_of_isChain {states : List (BoundedStack α)} (h : states.IsChain Becomes)
    {account : BoundedStack α → Nat} (hstep : ∀ s t, Becomes s t → account s ≤ account t) :
    (states.map account).Pairwise (· ≤ ·) :=
  List.isChain_iff_pairwise.1 ((List.isChain_map account).2 (h.imp hstep))

/-! ## The largest size so far -/

/-- A stack whose largest size so far is `peak`.  It has room for that many elements, which it would
not have with one growth less. -/
structure Tracks (limits : StackLimits) (peak : Nat) (s : BoundedStack α) : Prop where
  holds : s.Holds limits peak s.toList
  peak_le : peak ≤ s.capacity
  least : ∀ k < s.growCount, limits.capacity + k * limits.growth < peak

namespace Tracks

theorem new (h : new? limits = .ok s) : Tracks limits 0 s := by
  have hnew : s.toList = [] ∧ s.growCount = 0 := by
    unfold new? at h
    split_ifs at h
    cases h
    exact ⟨rfl, rfl⟩
  refine ⟨?_, Nat.zero_le _, fun k hk => ?_⟩
  · rw [hnew.1]
    exact holds_new h
  · rw [hnew.2] at hk
    exact absurd hk (Nat.not_lt_zero k)

theorem size_le (h : Tracks limits peak s) : s.size ≤ peak := by
  rw [h.holds.size_eq]
  exact h.holds.length_le

/-- With a push the largest size rises at most by one, and if it does not fit any more the stack has
grown just now. -/
theorem push (h : Tracks limits peak s) (hpush : s.push? a = .ok t) :
    Tracks limits (max peak t.size) t := by
  have hsize := h.size_le
  have hpeak := h.peak_le
  have hgrowth := h.holds.growth_pos
  obtain ⟨hsucc, haccount⟩ := account_of_push hpush
  have hlength : t.toList.length = t.size := t.size_eq.symm
  have hholds : t.Holds limits (peak + 1) t.toList := by
    have hfollows := h.holds.push a
    rw [hpush, ← toList_push hpush] at hfollows
    cases hfollows with
    | ok hr => exact hr
  refine ⟨hholds.of_length_le (by omega), ?_, fun k hk => ?_⟩
  · rcases haccount with ⟨hfull, hcapacity, -⟩ | ⟨hroom, hcapacity, -⟩ <;> omega
  · rcases haccount with ⟨hfull, -, hcount⟩ | ⟨-, -, hcount⟩
    · -- the capacity before was the size that was reached then
      have hsteps : (k : Int) * limits.growth ≤ s.growCount * limits.growth := by
        have hstep := h.holds.growth_eq
        exact Int.mul_le_mul_of_nonneg_right (by omega) (by omega)
      have hcapacity := h.holds.capacity_eq
      omega
    · have hleast := h.least k (by omega)
      omega

theorem dropTop (h : Tracks limits peak s) (n : Nat) :
    Tracks limits (max peak (s.dropTop n).size) (s.dropTop n) := by
  have hsize : (s.dropTop n).size ≤ peak := (Nat.sub_le _ _).trans h.size_le
  rw [Nat.max_eq_left hsize]
  exact ⟨h.holds.dropTop n, h.peak_le, h.least⟩

theorem becomes (h : Tracks limits peak s) (hnext : Becomes s t) :
    Tracks limits (max peak t.size) t := by
  cases hnext with
  | stay =>
    rw [Nat.max_eq_left h.size_le]
    exact h
  | push hpush => exact h.push hpush
  | dropTop n => exact h.dropTop n

/-- At every point of a run the capacity accounts for all points up to it. -/
theorem chain (h : Tracks limits peak s) {before after : List (BoundedStack α)}
    (hchain : List.IsChain Becomes (s :: (before ++ t :: after))) :
    Tracks limits (max peak (largestSize (before ++ [t]))) t := by
  induction before generalizing s peak with
  | nil =>
    rw [List.nil_append, largestSize_singleton]
    exact h.becomes (List.isChain_cons_cons.1 hchain).1
  | cons u before ih =>
    obtain ⟨hnext, hrest⟩ := List.isChain_cons_cons.1 hchain
    rw [List.cons_append, largestSize_cons, ← Nat.max_assoc]
    exact ih (h.becomes hnext) hrest

/-- The number of growths is the least one that is enough for the largest size. -/
theorem isLeast_growCount (h : Tracks limits peak s) :
    IsLeast {k : ℕ | (peak : Int) ≤ limits.capacity + k * limits.growth} s.growCount := by
  constructor
  · show (peak : Int) ≤ _
    rw [← h.holds.capacity_eq]
    exact Int.ofNat_le.2 h.peak_le
  · intro k hk
    by_contra hless
    exact absurd (h.least k (Nat.lt_of_not_le hless)) (Int.not_lt.2 hk)

end Tracks

theorem exists_new?_eq_ok (hcapacity : 0 ≤ limits.capacity)
    (hlargest : limits.capacity ≤ largestCapacity) (hgrowth : 1 ≤ limits.growth) :
    ∃ s : BoundedStack α, new? limits = .ok s := by
  unfold new?
  rw [if_neg (by omega), if_neg (by omega), if_neg (by omega)]
  exact ⟨_, rfl⟩

end BoundedStack

open BoundedStack in
/-- **The capacity tells the largest size.**  A stack is made with any capacity from zero to the
largest one and any growth from one on.  Then at every point of every run, between operations and
between the pushes of a block, whether pushes failed before or not: its size is within the capacity,
which is in range and has risen by the growth as often as it is counted, and this is the least
number of times that gives room for the largest size that the stack had up to that point.  In the
course of a run neither the capacity nor the count ever falls.  A block with other operations in it
is, for the stack, these operations and then `clear`. -/
theorem capacity_tracks_largest_size {α : Type} {limits : StackLimits}
    (hcapacity : 0 ≤ limits.capacity) (hlargest : limits.capacity ≤ largestCapacity)
    (hgrowth : 1 ≤ limits.growth) (requests : List (Request α)) :
    ∃ s : BoundedStack α, new? limits = .ok s ∧
      let states := s :: s.statesDuring requests
      states.getLast? = some (s.respondAll requests).2 ∧
      (states.map capacity).Pairwise (· ≤ ·) ∧ (states.map growCount).Pairwise (· ≤ ·) ∧
      ∀ before t after, states = before ++ t :: after →
        t.toList.length ≤ t.capacity ∧ t.capacity ≤ largestCapacity ∧
          (t.capacity : Int) = limits.capacity + t.growCount * limits.growth ∧
          IsLeast {k : ℕ | (largestSize (before ++ [t]) : Int) ≤
            limits.capacity + k * limits.growth} t.growCount := by
  obtain ⟨s, hnew⟩ := exists_new?_eq_ok (α := α) hcapacity hlargest hgrowth
  have hchain := isChain_statesDuring s requests
  refine ⟨s, hnew, getLast?_statesDuring s requests,
    pairwise_le_of_isChain hchain fun _ _ h => h.account_le.1,
    pairwise_le_of_isChain hchain fun _ _ h => h.account_le.2, ?_⟩
  intro before t after hstates
  have hstart : Tracks limits 0 s := .new hnew
  have hempty : s.size = 0 := Nat.le_zero.1 hstart.size_le
  have htracks : Tracks limits (largestSize (before ++ [t])) t := by
    cases before with
    | nil =>
      cases hstates
      rw [List.nil_append, largestSize_singleton, hempty]
      exact hstart
    | cons u before =>
      obtain ⟨rfl, hrest⟩ := List.cons.inj hstates
      rw [hrest] at hchain
      rw [List.cons_append, largestSize_cons, hempty]
      exact hstart.chain hchain
  exact ⟨htracks.holds.length_le.trans htracks.peak_le, htracks.holds.capacity_le,
    htracks.holds.capacity_eq, htracks.isLeast_growCount⟩

open BoundedStack in
/-- The theorem at a stack that holds four elements only within a block, and at the end none: two
growths are what four elements need, which the capacity still tells. -/
theorem capacity_tracks_largest_size_block :
    let limits : StackLimits := ⟨1, 2⟩
    let requests : List (Request Nat) := [.push 1, .block [2, 3, 4] true, .pop, .push 5, .clear]
    ∃ s : BoundedStack Nat, new? limits = .ok s ∧
      ((s :: s.statesDuring requests).map fun t => (t.size, t.capacity, t.growCount)) =
        [(0, 1, 0), (1, 1, 0), (2, 3, 1), (3, 3, 1), (4, 5, 2), (0, 5, 2), (0, 5, 2), (1, 5, 2),
          (0, 5, 2)] ∧
      IsLeast {k : ℕ | (4 : Int) ≤ 1 + k * 2} 2 ∧
      (s.respondAll requests).2.capacity = 5 ∧ (s.respondAll requests).2.growCount = 2 := by
  intro limits requests
  let made : BoundedStack Nat := ⟨[], 0, 1, 2, 0, rfl⟩
  have hcapacity : 0 ≤ limits.capacity := by decide
  have hlargest : limits.capacity ≤ largestCapacity := by decide
  have hgrowth : 1 ≤ limits.growth := by decide
  obtain ⟨s, hnew, -, -, -, hpoints⟩ :=
    capacity_tracks_largest_size hcapacity hlargest hgrowth requests
  have hmade : new? limits = .ok made := rfl
  cases hmade.symm.trans hnew
  have hend : made :: made.statesDuring requests =
      (made :: made.statesDuring requests).dropLast ++ [(made.respondAll requests).2] := rfl
  obtain ⟨-, -, -, hleast⟩ := hpoints _ _ _ hend
  exact ⟨made, hnew, rfl, hleast, rfl, rfl⟩

end DeskCalculator
