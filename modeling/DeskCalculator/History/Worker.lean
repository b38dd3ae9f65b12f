/-!
# The worker of a history

Entries are handed over a queue to a worker, which writes them one after another.  Clients and
the worker run side by side; each of their actions is atomic, and any order of actions that is
enabled may occur.

* `Worker` — the state that they share: the queue, what the worker holds, and the two counts.
* `Action` and `Worker.act?` — the atomic actions, each with the condition under which it
  is enabled.

An action of a client: hand over an entry, ask the worker to stop, close the file.  An
action of the worker: take the next item, write the entry it holds, account for the item it
holds.
-/

namespace DeskCalculator

/-! ## The shared state -/

/-- What stands in the queue: an entry, or the request to stop. -/
inductive Item (ε : Type) where
  | entry (e : ε)
  | stop
deriving Repr, DecidableEq

/-- What the worker is at. -/
inductive Hand (ε : Type) where
  /-- It waits for an item. -/
  | empty
  /-- It has taken an item and not yet dealt with it. -/
  | taken (i : Item ε)
  /-- It has dealt with an item and not yet accounted for it. -/
  | handled (i : Item ε)
  /-- It has stopped. -/
  | gone
deriving Repr, DecidableEq

/-- The state that clients and worker share. -/
structure Worker (ε : Type) where
  /-- The items that wait, the next one first. -/
  queue : List (Item ε) := []
  /-- The number of items handed over and not yet accounted for. -/
  unfinished : Nat := 0
  hand : Hand ε := .empty
  /-- Whether the worker was asked to stop. -/
  closed : Bool := false
  /-- Whether the file is open. -/
  fileOpen : Bool := true
  /-- The number of entries that could not be written. -/
  failures : Nat := 0
deriving Repr, DecidableEq

/-! ## Actions -/

/-- An atomic action. -/
inductive Action (ε : Type) where
  /-- A client hands over an entry; once the worker was asked to stop, nothing comes of it. -/
  | notify (e : ε)
  /-- A client asks the worker to stop, which only the first one does. -/
  | requestStop
  /-- The client that asked closes the file, whether the worker has stopped or not. -/
  | closeFile
  /-- The worker takes the next item. -/
  | take
  /-- The worker deals with the item it holds: an entry is written, or is not and counts as a
  failure.  Nothing is written to a closed file. -/
  | handle (written : Bool)
  /-- The worker accounts for the item it dealt with; after the request to stop it is gone. -/
  | account
deriving Repr, DecidableEq

namespace Worker

variable {ε : Type}

/-- Put an item at the end of the queue. -/
def enqueue (w : Worker ε) (i : Item ε) : Worker ε :=
  { w with queue := w.queue ++ [i], unfinished := w.unfinished + 1 }

/-- Hand over an entry. -/
def notify (w : Worker ε) (e : ε) : Worker ε := if w.closed then w else w.enqueue (.entry e)

/-- Ask the worker to stop. -/
def requestStop (w : Worker ε) : Worker ε :=
  if w.closed then w else { w.enqueue .stop with closed := true }

/-- Close the file. -/
def closeFile (w : Worker ε) : Worker ε := { w with fileOpen := false }

/-- Take the next item. -/
def take? (w : Worker ε) : Option (Worker ε) :=
  match w.hand, w.queue with
  | .empty, i :: queue => some { w with queue, hand := .taken i }
  | _, _ => none

/-- Deal with the item in hand. -/
def handle? (w : Worker ε) (written : Bool) : Option (Worker ε) :=
  match w.hand with
  | .taken (.entry e) =>
    if written && !w.fileOpen then none
    else
      some { w with
        hand := .handled (.entry e)
        failures := if written then w.failures else w.failures + 1 }
  | .taken .stop => some { w with hand := .handled .stop }
  | _ => none

/-- Account for the item that was dealt with. -/
def account? (w : Worker ε) : Option (Worker ε) :=
  match w.hand with
  | .handled (.entry _) => some { w with hand := .empty, unfinished := w.unfinished - 1 }
  | .handled .stop => some { w with hand := .gone, unfinished := w.unfinished - 1 }
  | _ => none

/-- The state after an action, if the action is enabled. -/
def act? (w : Worker ε) : Action ε → Option (Worker ε)
  | .notify e => some (w.notify e)
  | .requestStop => some w.requestStop
  | .closeFile => if w.closed then some w.closeFile else none
  | .take => w.take?
  | .handle written => w.handle? written
  | .account => w.account?

/-- Whether everything handed over is accounted for. -/
def isFlushed (w : Worker ε) : Bool := w.unfinished == 0

/-- Whether the worker has stopped. -/
def isGone (w : Worker ε) : Bool :=
  match w.hand with
  | .gone => true
  | _ => false

/-- A bound on the number of actions that the worker can take by itself. -/
def stepsLeft (w : Worker ε) : Nat :=
  3 * w.queue.length +
    match w.hand with
    | .taken _ => 2
    | .handled _ => 1
    | .empty | .gone => 0

end Worker

end DeskCalculator
