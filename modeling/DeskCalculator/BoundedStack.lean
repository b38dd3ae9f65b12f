/-!
# Stacks that grow by a fixed increment

A last-in first-out container with an accounted capacity.  When a push finds the stack full,
the capacity grows by a fixed increment; a growth past the largest capacity fails and leaves
the stack as it was.

* `BoundedStack` — the elements, top first, with the account of the capacity.
* `push?`, `pop`, `peek`, `clear` and `dropTop` — the operations.
* `Request`, `Reply` and `respond` — the same operations as data, for runs of many of
  them; a block pushes its values and empties the stack when it is left.

The view of a stack is `toList`; each operation has one equation through it.
-/

namespace DeskCalculator

/-! ## Failures -/

/-- Why a stack cannot be made or cannot grow. -/
inductive StackFailure where
  /-- The capacity asked for is below zero. -/
  | negativeCapacity (capacity : Int)
  /-- The capacity asked for is above the largest one. -/
  | capacityTooLarge
  /-- The increment asked for is below one. -/
  | growthTooSmall (growth : Int)
  /-- The grown capacity would be above the largest one. -/
  | capacityOverflow
deriving Repr, DecidableEq

/-- The largest number of elements that can be accounted for. -/
def largestCapacity : Nat := Nat.pow 2 63 - 1

/-! ## The container -/

/-- A stack: its elements, the top first, and the account of its capacity. -/
structure BoundedStack (α : Type) where
  items : List α
  size : Nat
  capacity : Nat
  growth : Nat
  growCount : Nat
  size_eq : size = items.length
deriving Repr

/-- The capacity and the increment that a new stack is asked for. -/
structure StackLimits where
  capacity : Int := 10
  growth : Int := 32
deriving Repr, DecidableEq

namespace BoundedStack

variable {α : Type}

/-- The elements, top first. -/
def toList (s : BoundedStack α) : List α := s.items

/-- An empty stack with the given limits.  A capacity out of range is reported before an
increment that is. -/
def new? (limits : StackLimits) : Except StackFailure (BoundedStack α) :=
  if limits.capacity < 0 then .error (.negativeCapacity limits.capacity)
  else if (largestCapacity : Int) < limits.capacity then .error .capacityTooLarge
  else if limits.growth < 1 then .error (.growthTooSmall limits.growth)
  else .ok ⟨[], 0, limits.capacity.toNat, limits.growth.toNat, 0, rfl⟩

/-- Raise the capacity by one increment. -/
def grow? (s : BoundedStack α) : Except StackFailure (BoundedStack α) :=
  if largestCapacity < s.capacity + s.growth then .error .capacityOverflow
  else .ok { s with capacity := s.capacity + s.growth, growCount := s.growCount + 1 }

/-- Put an element on top, which is room enough for already. -/
def pushUnchecked (s : BoundedStack α) (a : α) : BoundedStack α :=
  { s with items := a :: s.items, size := s.size + 1, size_eq := by simp [s.size_eq] }

/-- Put an element on top; a full stack grows first. -/
def push? (s : BoundedStack α) (a : α) : Except StackFailure (BoundedStack α) :=
  if s.size = s.capacity then s.grow?.map (·.pushUnchecked a)
  else .ok (s.pushUnchecked a)

/-- Drop the topmost `n` elements. -/
def dropTop (s : BoundedStack α) (n : Nat) : BoundedStack α :=
  { s with items := s.items.drop n, size := s.size - n, size_eq := by simp [s.size_eq] }

/-- The top element. -/
def peek (s : BoundedStack α) : Option α := s.items.head?

/-- Take the top element off.  An empty stack has none and stays as it is. -/
def pop (s : BoundedStack α) : Option α × BoundedStack α := (s.peek, s.dropTop 1)

/-- Whether there is no element. -/
def isEmpty (s : BoundedStack α) : Bool := s.items.isEmpty

/-- Take all elements off, in the order in which they come off. -/
def clear (s : BoundedStack α) : List α × BoundedStack α := (s.items, s.dropTop s.size)

/-! ### The view -/

@[simp] theorem toList_grow {s t : BoundedStack α} (h : s.grow? = .ok t) :
    t.toList = s.toList := by
  unfold grow? at h
  split at h
  · cases h
  · cases h; rfl

theorem toList_push {s t : BoundedStack α} {a : α} (h : s.push? a = .ok t) :
    t.toList = a :: s.toList := by
  unfold push? at h
  split at h
  · cases hg : s.grow? with
    | error e => rw [hg] at h; cases h
    | ok g =>
      rw [hg] at h
      cases h
      exact congrArg (a :: ·) (toList_grow hg)
  · cases h; rfl

@[simp] theorem toList_dropTop (s : BoundedStack α) (n : Nat) :
    (s.dropTop n).toList = s.toList.drop n := rfl

@[simp] theorem toList_pop (s : BoundedStack α) : s.pop.2.toList = s.toList.tail :=
  List.drop_one

@[simp] theorem toList_clear (s : BoundedStack α) : s.clear.2.toList = [] := by
  simp [clear, toList, dropTop, s.size_eq]

/-! ## Operations as data -/

/-- One operation on a stack. -/
inductive Request (α : Type) where
  | push (a : α)
  | pop
  | peek
  | isEmpty
  | clear
  | iterate
  | show
  /-- Push some values inside a block, which ends by an interruption if `interrupted`. -/
  | block (values : List α) (interrupted : Bool)
deriving Repr

/-- What an operation answers. -/
inductive Reply (α : Type) where
  | done
  | element (a : Option α)
  | truth (b : Bool)
  | elements (items : List α)
  /-- The elements from the bottom to the top, and the capacity. -/
  | shown (items : List α) (capacity : Nat)
  | failed (e : StackFailure)
  /-- The block was left by its interruption. -/
  | interrupted
deriving Repr

/-- Push values one after another.  The stack is what the pushes before a failing one left. -/
def pushAll (s : BoundedStack α) : List α → Option StackFailure × BoundedStack α
  | [] => (none, s)
  | a :: rest =>
    match s.push? a with
    | .ok t => t.pushAll rest
    | .error e => (some e, s)

/-- Carry out one operation.  However a block is left, the stack is empty after it. -/
def respond (s : BoundedStack α) : Request α → Reply α × BoundedStack α
  | .push a =>
    match s.push? a with
    | .ok t => (.done, t)
    | .error e => (.failed e, s)
  | .pop => (.element s.pop.1, s.pop.2)
  | .peek => (.element s.peek, s)
  | .isEmpty => (.truth s.isEmpty, s)
  | .clear => (.elements s.clear.1, s.clear.2)
  | .iterate => (.elements s.toList, s)
  | .show => (.shown s.toList.reverse s.capacity, s)
  | .block values interrupted =>
    let (failure, t) := s.pushAll values
    match failure with
    | some e => (.failed e, t.clear.2)
    | none => (if interrupted then .interrupted else .done, t.clear.2)

/-- Carry out operations in order, with all answers. -/
def respondAll (s : BoundedStack α) : List (Request α) → List (Reply α) × BoundedStack α
  | [] => ([], s)
  | r :: rest =>
    let (reply, t) := s.respond r
    let (replies, u) := t.respondAll rest
    (reply :: replies, u)

end BoundedStack

end DeskCalculator
